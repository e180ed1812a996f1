import AuditTrail.Text.Replace
import AuditTrail.Decimal.Numeral

/-!
# Message templates

A message key names a template, and the parameters of a message fill its placeholders one after
the other: the first parameter replaces every `0` in braces, then the second every `1` in braces,
and so on. Placeholders without a parameter stay.
-/

namespace AuditTrail

/-- What a message for a caller is about. -/
inductive MessageKey where
  | noKey
  | interceptorException
  | auditWriteFailed
  | unexpectedError
  deriving DecidableEq, Repr, Inhabited

namespace MessageKey

/-- All message keys. -/
def all : List MessageKey :=
  [noKey, interceptorException, auditWriteFailed, unexpectedError]

/-- The name of a key in documents. -/
def name : MessageKey → String
  | noKey => "NO_KEY"
  | interceptorException => "INTERCEPTOR_EXCEPTION"
  | auditWriteFailed => "AUDIT_WRITE_FAILED"
  | unexpectedError => "UNEXPECTED_ERROR"

/-- The name of a key in diagnostics. -/
def label : MessageKey → String
  | noKey => "NoKey"
  | interceptorException => "InterceptorException"
  | auditWriteFailed => "AuditWriteFailed"
  | unexpectedError => "UnexpectedError"

/-- The identifier under which callers look a message up. -/
def id : MessageKey → String
  | noKey => "NO_KEY"
  | interceptorException => "bulwark.audit.interceptor.exception"
  | auditWriteFailed => "bulwark.audit.write.failed"
  | unexpectedError => "bulwark.unexpected.error"

/-- The text that parameters fill. -/
def template : MessageKey → String
  | noKey => "No key was provided"
  | interceptorException => "\x7b0\x7d - Exception occurred while attempting to \x7b1\x7d."
  | auditWriteFailed => "\x7b0\x7d - Unable to write the audit record for \x7b1\x7d."
  | unexpectedError => "Unexpected error: \x7b0\x7d"

/-- The key with exactly that name. -/
def ofName? (s : String) : Option MessageKey :=
  all.find? fun key ↦ key.name = s

theorem ofName?_name (key : MessageKey) : ofName? key.name = some key := by
  cases key <;> rfl

/-- The placeholder of a parameter, by its place. -/
def placeholder (place : Nat) : String :=
  String.ofList ('\x7b' :: Numeral.ofNat place ++ ['\x7d'])

/-- Fills the placeholders from a place on with parameters, one parameter after the other. -/
def fillFrom (place : Nat) (text : String) : List String → String
  | [] => text
  | param :: params => fillFrom (place + 1) (Text.replaceAll text (placeholder place) param) params

@[simp] theorem fillFrom_nil (place : Nat) (text : String) : fillFrom place text [] = text := rfl

/-- The message of a key with parameters. -/
def message (key : MessageKey) (params : List String) : String :=
  fillFrom 0 key.template params

@[simp] theorem message_nil (key : MessageKey) : key.message [] = key.template := rfl

end MessageKey

end AuditTrail

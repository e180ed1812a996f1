import AuditTrail.Value.Basic
import AuditTrail.Log

/-!
# Payload limits

A limiter caps the binary payloads among some values. All payloads are measured before any is
replaced, and if one cannot be measured the values stay as they are.
-/

namespace AuditTrail

/-- What happens to payloads that do not exceed the limit. -/
inductive UnderLimitPolicy where
  | passThrough
  | drop
  deriving DecidableEq, Repr, Inhabited

namespace UnderLimitPolicy

/-- Both policies. -/
def all : List UnderLimitPolicy :=
  [passThrough, drop]

/-- The name of a policy in configuration. -/
def name : UnderLimitPolicy → String
  | passThrough => "pass_through"
  | drop => "drop"

/-- The name of a policy in diagnostics. -/
def label : UnderLimitPolicy → String
  | passThrough => "PassThrough"
  | drop => "Drop"

/-- The policy with exactly that name. -/
def ofName? (s : String) : Option UnderLimitPolicy :=
  all.find? fun policy ↦ policy.name = s

theorem ofName?_name (policy : UnderLimitPolicy) : ofName? policy.name = some policy := by
  cases policy <;> rfl

end UnderLimitPolicy

/-- How payloads are measured: the size of a payload in the n-th measurement, or a failure. -/
abbrev PayloadSizer := (measurement : Nat) → (payload : List UInt8) → Except String Nat

/-- The sizer that counts bytes. -/
def PayloadSizer.counting : PayloadSizer :=
  fun _ payload ↦ .ok payload.length

/-- A limit on binary payloads. -/
structure PayloadLimit where
  limit : Nat
  policy : UnderLimitPolicy
  sizer : PayloadSizer

/-- The limit of an application that says nothing about it, in bytes. -/
def defaultPayloadLimit : Nat :=
  1024

namespace PayloadLimit

/-- A limit that keeps what does not exceed it and counts bytes. -/
def ofBytes (limit : Nat) : PayloadLimit :=
  ⟨limit, .passThrough, .counting⟩

/-- The measured sizes of the payloads among some values, from the n-th measurement on. -/
def measureFrom (sizer : PayloadSizer) (n : Nat) : List Value → Except String (List (Option Nat))
  | [] => .ok []
  | value :: rest =>
    match value.payload? with
    | some payload => do return some (← sizer n payload) :: (← measureFrom sizer (n + 1) rest)
    | none => do return none :: (← measureFrom sizer n rest)

/-- What replaces a payload that exceeds the limit. -/
def placeholder (limit : Nat) : Value :=
  .bytes (List.replicate limit 0)

/-- A value of a measured size under the limit. -/
def apply (limit : PayloadLimit) (value : Value) : Option Nat → Option Value
  | none => some value
  | some size =>
    if limit.limit < size then some (placeholder limit.limit)
    else
      match limit.policy with
      | .passThrough => some value
      | .drop => none

/-- The values under the limit, or the failure of a measurement. -/
def limited (limit : PayloadLimit) (values : List Value) : Except String (List Value) := do
  let sizes ← measureFrom limit.sizer 0 values
  return (values.zip sizes).filterMap fun (value, size) ↦ limit.apply value size

/-- The values under the limit, as they came if a payload cannot be measured. -/
def run (limit : PayloadLimit) (values : List Value) : List Value :=
  match limit.limited values with
  | .ok values => values
  | .error _ => values

/-- The diagnostics of limiting some values. -/
def logs (limit : PayloadLimit) (values : List Value) : List Log.Event :=
  match limit.limited values with
  | .ok _ => []
  | .error message =>
    [{ level := .error
       target := Log.diagnosticTarget
       message := "Failed to measure audit payload, keeping payloads as they are"
       fields := [("error", .shown message), ("limit", .number limit.limit)] }]

/-- The diagnostic form of a limit. -/
def debugText (limit : PayloadLimit) : String :=
  "PayloadLimiter \x7b limit: " ++ toString limit.limit ++ ", policy: " ++ limit.policy.label ++
    ", .. \x7d"

end PayloadLimit

end AuditTrail

import AuditTrail.Logging.Config
import AuditTrail.Text.Replace

/-!
# Placeholders in configuration texts

A placeholder stands in braces behind a dollar sign: the name of a variable, possibly with a text
that replaces a variable that is not set. The placeholders of a text are found first; then each of
them in turn is replaced wherever its text occurs.
-/

namespace AuditTrail

/-- A placeholder for a variable. -/
structure Placeholder where
  name : List Char
  fallback : Option (List Char)
  deriving DecidableEq, Repr

namespace Placeholder

/-- The characters of a placeholder. -/
def text (placeholder : Placeholder) : List Char :=
  '$' :: '\x7b' :: placeholder.name ++
    (match placeholder.fallback with
      | none => []
      | some fallback => ':' :: '-' :: fallback) ++ ['\x7d']

/-- The name of a placeholder goes on with this character. -/
def inName (c : Char) : Bool :=
  c ≠ '\x7d' && c ≠ ':'

/-- The placeholder at the start of a text, behind its opening brace. -/
def ofBody? (cs : List Char) : Option Placeholder :=
  match cs.takeWhile inName, cs.dropWhile inName with
  | [], _ => none
  | name, '\x7d' :: _ => some ⟨name, none⟩
  | name, ':' :: '-' :: rest =>
    if '\x7d' ∈ rest then some ⟨name, some (rest.takeWhile (· ≠ '\x7d'))⟩ else none
  | _, _ => none

/-- The placeholder at the start of a text. -/
def at? : List Char → Option Placeholder
  | '$' :: '\x7b' :: cs => ofBody? cs
  | _ => none

theorem length_text_pos (placeholder : Placeholder) : 0 < placeholder.text.length := by
  simp [text]

/-- The value of a placeholder among some variables. -/
def value? (environment : Environment) (placeholder : Placeholder) : Option String :=
  environment.get? (String.ofList placeholder.name) <|> placeholder.fallback.map String.ofList

end Placeholder

/-- A part of a text with placeholders. -/
inductive TextPart where
  | char (c : Char)
  | placeholder (found : Placeholder)
  deriving DecidableEq, Repr

namespace TextPart

/-- The parts of a text, where placeholders are found from left to right without overlap. -/
def ofChars (cs : List Char) : List TextPart :=
  match cs with
  | [] => []
  | c :: rest =>
    match Placeholder.at? (c :: rest) with
    | some found => .placeholder found :: ofChars ((c :: rest).drop found.text.length)
    | none => .char c :: ofChars rest
  termination_by cs.length
  decreasing_by
    · have := found.length_text_pos
      simp only [List.length_drop, List.length_cons]
      omega
    · simp

/-- The placeholder of a part. -/
def placeholder? : TextPart → Option Placeholder
  | .placeholder found => some found
  | .char _ => none

@[simp] theorem ofChars_nil : ofChars [] = [] := by
  simp [ofChars]

end TextPart

namespace Placeholder

/-- The placeholders of a text, from left to right. -/
def all (s : String) : List Placeholder :=
  (TextPart.ofChars s.toList).filterMap TextPart.placeholder?

/-- A text with some placeholders replaced one after the other, wherever the text of each occurs,
or the name of the first one without a value. -/
def replaceEach (environment : Environment) : List Placeholder → String → Except String String
  | [], s => .ok s
  | placeholder :: rest, s =>
    match placeholder.value? environment with
    | some value =>
      replaceEach environment rest (Text.replaceAll s (String.ofList placeholder.text) value)
    | none => .error (String.ofList placeholder.name)

@[simp] theorem replaceEach_nil (environment : Environment) (s : String) :
    replaceEach environment [] s = .ok s := rfl

/-- A text with its placeholders replaced, or the name of the first one without a value. -/
def expand (environment : Environment) (s : String) : Except String String :=
  replaceEach environment (all s) s

end Placeholder

end AuditTrail

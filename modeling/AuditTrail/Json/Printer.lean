import AuditTrail.Json.Basic
import AuditTrail.Decimal.Layout
import AuditTrail.Decimal.Numeral
import AuditTrail.Text.Quoted

/-!
# Compact JSON text

The text of a document without any space between its tokens.
-/

namespace AuditTrail.Json

/-- How a character stands in a JSON string: quotation mark, backslash and controls below the
space are escaped and nothing else is. -/
def escapeChar (c : Char) : List Char :=
  match c with
  | '"' => ['\\', '"']
  | '\\' => ['\\', '\\']
  | '\x08' => ['\\', 'b']
  | '\x0c' => ['\\', 'f']
  | '\n' => ['\\', 'n']
  | '\r' => ['\\', 'r']
  | '\t' => ['\\', 't']
  | c =>
    if c.toNat < 0x20 then
      ['\\', 'u', '0', '0', Nat.digitChar (c.toNat / 16), Nat.digitChar (c.toNat % 16)]
    else [c]

/-- The characters of a JSON string. -/
def stringChars (s : String) : List Char :=
  '"' :: s.toList.flatMap escapeChar ++ ['"']

/-- Powers of ten from -5 to 15 are written out, an integral float shows that it is one and a
positive exponent has a sign. -/
def floatLayout : FloatLayout :=
  ⟨fun n ↦ -5 ≤ n && n < 16, true, true⟩

mutual

/-- The characters of a document; a float that is no number is null. -/
def chars : Json → List Char
  | null => "null".toList
  | bool true => "true".toList
  | bool false => "false".toList
  | int n => Numeral.ofInt n
  | float x => if x.isFinite then (floatLayout.finiteText x).toList else "null".toList
  | str s => stringChars s
  | arr items => '[' :: itemChars items ++ [']']
  | obj members => '\x7b' :: memberChars members ++ ['\x7d']

/-- The characters between the brackets of an array. -/
def itemChars : List Json → List Char
  | [] => []
  | [item] => chars item
  | item :: rest => chars item ++ ',' :: itemChars rest

/-- The characters between the braces of an object. -/
def memberChars : List (String × Json) → List Char
  | [] => []
  | [(name, value)] => stringChars name ++ ':' :: chars value
  | (name, value) :: rest => stringChars name ++ ':' :: chars value ++ ',' :: memberChars rest

end

/-- The text of a document. -/
def render (j : Json) : String :=
  String.ofList (chars j)

end AuditTrail.Json

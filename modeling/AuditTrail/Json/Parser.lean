import AuditTrail.Json.Basic
import AuditTrail.Decimal.Numeral

/-!
# Reading JSON text

A reader of the whole grammar of JSON. Integers from the least signed to the greatest unsigned
number of 64 bits stay integers, every other number is the nearest float, and a number beyond the
range of floats is refused, as is a lone surrogate.
-/

namespace AuditTrail.Json

/-- Space, tab, line feed and carriage return. -/
def isSpace (c : Char) : Bool :=
  c = ' ' || c = '\n' || c = '\r' || c = '\t'

/-- What follows the space at the start of a text. -/
def skipSpace (cs : List Char) : List Char :=
  cs.dropWhile isSpace

/-- Four hexadecimal digits. -/
def hex4? : List Char → Option (Nat × List Char)
  | a :: b :: c :: d :: rest => (Numeral.read? 16 [a, b, c, d]).map (·, rest)
  | _ => none

/-- The character of an escape that begins with `u`, after that letter. -/
def unicodeEscape? (cs : List Char) : Option (Char × List Char) := do
  let (n, rest) ← hex4? cs
  if 0xD800 ≤ n ∧ n < 0xDC00 then
    match rest with
    | '\\' :: 'u' :: rest =>
      let (m, rest) ← hex4? rest
      if 0xDC00 ≤ m ∧ m < 0xE000 then
        some (Char.ofNat (0x10000 + (n - 0xD800) * 0x400 + (m - 0xDC00)), rest)
      else none
    | _ => none
  else if 0xDC00 ≤ n ∧ n < 0xE000 then none
  else some (Char.ofNat n, rest)

/-- The character of an escape, after its backslash. -/
def escape? : List Char → Option (Char × List Char)
  | '"' :: rest => some ('"', rest)
  | '\\' :: rest => some ('\\', rest)
  | '/' :: rest => some ('/', rest)
  | 'b' :: rest => some ('\x08', rest)
  | 'f' :: rest => some ('\x0c', rest)
  | 'n' :: rest => some ('\n', rest)
  | 'r' :: rest => some ('\r', rest)
  | 't' :: rest => some ('\t', rest)
  | 'u' :: rest => unicodeEscape? rest
  | _ => none

/-- The characters of a string up to its closing quotation mark, after the opening one. -/
def stringBody? : (fuel : Nat) → List Char → Option (List Char × List Char)
  | 0, _ => none
  | _ + 1, [] => none
  | _ + 1, '"' :: rest => some ([], rest)
  | fuel + 1, '\\' :: rest => do
    let (c, rest) ← escape? rest
    let (cs, rest) ← stringBody? fuel rest
    some (c :: cs, rest)
  | fuel + 1, c :: rest =>
    if c.toNat < 0x20 then none
    else (stringBody? fuel rest).map fun (cs, rest) ↦ (c :: cs, rest)

/-- A fraction: the digits after a point, of which there is one at least, or no point. -/
def fraction? : List Char → Option (List Char × List Char)
  | '.' :: rest =>
    match Numeral.spanDigits rest with
    | ([], _) => none
    | span => some span
  | rest => some ([], rest)

/-- The value of an exponent's digits, of which there is one at least. -/
def exponentDigits? (sign : Int) (cs : List Char) : Option (Option Int × List Char) :=
  match Numeral.spanDigits cs with
  | ([], _) => none
  | (digits, rest) => (Numeral.read? 10 digits).map fun n ↦ (some (sign * n), rest)

/-- An exponent, or none. -/
def exponent? : List Char → Option (Option Int × List Char)
  | c :: rest =>
    if c = 'e' ∨ c = 'E' then
      match rest with
      | '+' :: rest => exponentDigits? 1 rest
      | '-' :: rest => exponentDigits? (-1) rest
      | rest => exponentDigits? 1 rest
    else some (none, c :: rest)
  | [] => some (none, [])

/-- The float of a numeral, if there is a finite one. -/
def floatOf? (negative : Bool) (digits : List Char) (exponent : Int) : Option Json := do
  let n ← Numeral.read? 10 digits
  let x := Binary64.ofDecimal negative n exponent
  if x.isFinite then some (float x) else none

/-- The number of an integer numeral. -/
def integerOf? (negative : Bool) (digits : List Char) : Option Json := do
  let n ← Numeral.read? 10 digits
  if negative then
    if 0 < n ∧ n ≤ Nat.pow 2 63 then some (int (-n)) else floatOf? true digits 0
  else if n < Nat.pow 2 64 then some (int n)
  else floatOf? false digits 0

/-- A number after its sign. -/
def unsigned? (negative : Bool) (cs : List Char) : Option (Json × List Char) :=
  match Numeral.spanDigits cs with
  | ([], _) => none
  | ('0' :: _ :: _, _) => none
  | (whole, rest) => do
    let (places, rest) ← fraction? rest
    let (exponent, rest) ← exponent? rest
    let number ←
      if places = [] ∧ exponent = none then integerOf? negative whole
      else floatOf? negative (whole ++ places) (exponent.getD 0 - places.length)
    some (number, rest)

/-- A number. -/
def number? : List Char → Option (Json × List Char)
  | '-' :: rest => unsigned? true rest
  | cs => unsigned? false cs

mutual

/-- A document at the start of a text, with what follows it. -/
def value? : (fuel : Nat) → List Char → Option (Json × List Char)
  | 0, _ => none
  | fuel + 1, cs =>
    match skipSpace cs with
    | 'n' :: 'u' :: 'l' :: 'l' :: rest => some (null, rest)
    | 't' :: 'r' :: 'u' :: 'e' :: rest => some (bool true, rest)
    | 'f' :: 'a' :: 'l' :: 's' :: 'e' :: rest => some (bool false, rest)
    | '"' :: rest =>
      (stringBody? rest.length.succ rest).map fun (s, rest) ↦ (str (String.ofList s), rest)
    | '[' :: rest =>
      match skipSpace rest with
      | ']' :: rest => some (arr [], rest)
      | rest => (items? fuel rest).map fun (items, rest) ↦ (arr items, rest)
    | '\x7b' :: rest =>
      match skipSpace rest with
      | '\x7d' :: rest => some (obj [], rest)
      | rest => (members? fuel rest).map fun (members, rest) ↦ (obj members, rest)
    | cs => number? cs

/-- One or more items up to the closing bracket. -/
def items? : (fuel : Nat) → List Char → Option (List Json × List Char)
  | 0, _ => none
  | fuel + 1, cs => do
    let (item, rest) ← value? fuel cs
    match skipSpace rest with
    | ',' :: rest => (items? fuel rest).map fun (items, rest) ↦ (item :: items, rest)
    | ']' :: rest => some ([item], rest)
    | _ => none

/-- One or more members up to the closing brace. -/
def members? : (fuel : Nat) → List Char → Option (List (String × Json) × List Char)
  | 0, _ => none
  | fuel + 1, cs =>
    match skipSpace cs with
    | '"' :: rest => do
      let (name, rest) ← stringBody? rest.length.succ rest
      match skipSpace rest with
      | ':' :: rest =>
        let (value, rest) ← value? fuel rest
        let member := (String.ofList name, value)
        match skipSpace rest with
        | ',' :: rest => (members? fuel rest).map fun (members, rest) ↦ (member :: members, rest)
        | '\x7d' :: rest => some ([member], rest)
        | _ => none
      | _ => none
    | _ => none

end

/-- The document that a list of characters writes, with space around it allowed. -/
def parseChars? (cs : List Char) : Option Json :=
  match value? (2 * cs.length + 2) cs with
  | some (j, rest) => if skipSpace rest = [] then some j else none
  | none => none

/-- The document that a text writes. -/
def parse? (s : String) : Option Json :=
  parseChars? s.toList

end AuditTrail.Json

import AuditTrail.Yaml.Scalar
import AuditTrail.Text.Utf8

/-!
# Tokens of a YAML text

The tokens with a text of their own: directives, anchors, aliases and tags.
-/

namespace AuditTrail.Yaml

/-- What a token is. -/
inductive TokenKind where
  | streamEnd
  /-- A directive that states the version of the language. -/
  | version (major minor : Nat)
  /-- A directive that declares what a tag handle stands for. -/
  | tagHandle (handle meaning : String)
  | documentStart
  | documentEnd
  | blockSequence
  | blockMapping
  | blockEnd
  | flowSequence
  | flowSequenceEnd
  | flowMapping
  | flowMappingEnd
  | blockEntry
  | flowEntry
  | key
  | value
  | alias (name : String)
  | anchor (name : String)
  | tag (handle suffix : String)
  | scalar (style : ScalarStyle) (text : String)
  deriving DecidableEq, Repr

/-- A token and the line that it begins in. -/
structure Token where
  kind : TokenKind
  line : Nat
  deriving DecidableEq, Repr

/-! ## Anchors and aliases -/

/-- An anchor or alias, of which `make` makes the token. -/
def anchorToken (make : String → TokenKind) (cursor : Cursor) : Except Nat (TokenKind × Cursor) :=
  let (name, cursor) := (cursor.advance 1).span isWord
  if name = [] ||
      !(blankOrEnd cursor.rest || cursor.next fun c ↦ "?:,]\x7d%@`".toList.contains c) then
    .error cursor.line
  else .ok (make (String.ofList name), cursor)

/-! ## Tags -/

/-- The characters of a tag besides letters, digits, underscore and hyphen. -/
def uriMarks : List Char :=
  ";/?:@&=+$.%!~*'()".toList

/-- A byte that is written as a percent sign and two hexadecimal digits. -/
def octet? : List Char → Option Nat
  | '%' :: a :: b :: _ => Numeral.read? 16 [a, b]
  | _ => none

/-- The number of bytes of a character whose first byte is `b`. -/
def octetCount? (b : Nat) : Option Nat :=
  if b < 0x80 then some 1
  else if b < 0xC0 then none
  else if b < 0xE0 then some 2
  else if b < 0xF0 then some 3
  else if b < 0xF8 then some 4
  else none

/-- Further bytes of an escaped character. -/
def furtherOctets? : (count : Nat) → List Char → Option (List UInt8)
  | 0, _ => some []
  | count + 1, cs => do
    let b ← (octet? cs).filter fun b ↦ b / 64 = 2
    return .ofNat b :: (← furtherOctets? count (cs.drop 3))

/-- The bytes of an escaped character. -/
def escapedOctets? (cs : List Char) : Option (List UInt8) := do
  let b ← octet? cs
  let count ← octetCount? b
  return .ofNat b :: (← furtherOctets? (count - 1) (cs.drop 3))

/-- The bytes of a tag up to the first character that a tag cannot hold. Only a verbatim tag may
hold commas and brackets. -/
def uriBytes (verbatim : Bool) :
    (fuel : Nat) → (before : List UInt8) → Cursor → Except Nat (List UInt8 × Cursor)
  | 0, before, cursor => .ok (before, cursor)
  | fuel + 1, before, cursor =>
    match cursor.rest with
    | [] => .ok (before, cursor)
    | c :: _ =>
      if c = '%' then
        match escapedOctets? cursor.rest with
        | some bytes => uriBytes verbatim fuel (before ++ bytes) (cursor.advance (3 * bytes.length))
        | none => .error cursor.line
      else if isWord c || uriMarks.contains c || (verbatim && (c = ',' || c = '[' || c = ']')) then
        uriBytes verbatim fuel (before ++ [.ofNat c.toNat]) (cursor.advance 1)
      else .ok (before, cursor)

/-- A part of a tag that may be empty. -/
def uriPart (verbatim : Bool) (cursor : Cursor) : Except Nat (String × Cursor) := do
  let (bytes, cursor) ← uriBytes verbatim cursor.rest.length [] cursor
  return (Text.Utf8.toStringLossy bytes, cursor)

/-- A part of a tag that is not empty. -/
def uri (verbatim : Bool) (cursor : Cursor) : Except Nat (String × Cursor) := do
  let (part, cursor) ← uriPart verbatim cursor
  if part = "" then .error cursor.line else return (part, cursor)

/-- A handle at a place with an exclamation mark: the characters from it to a further one, and
whether there is a further one. -/
def tagHandlePart (cursor : Cursor) : Except Nat ((List Char × Bool) × Cursor) :=
  if cursor.sees '!' then
    let (name, cursor) := (cursor.advance 1).span isWord
    if cursor.sees '!' then .ok (('!' :: name ++ ['!'], true), cursor.advance 1)
    else .ok (('!' :: name, false), cursor)
  else .error cursor.line

/-- A tag without what has to follow it. -/
def tagBody (cursor : Cursor) : Except Nat (TokenKind × Cursor) := do
  if (cursor.advance 1).sees '<' then
    let (suffix, cursor) ← uri true (cursor.advance 2)
    if cursor.sees '>' then return (.tag "" suffix, cursor.advance 1) else .error cursor.line
  else
    let ((handle, closed), cursor) ← tagHandlePart cursor
    if closed then
      let (suffix, cursor) ← uri false cursor
      return (.tag (String.ofList handle) suffix, cursor)
    else
      let (suffix, cursor) ← uriPart false cursor
      let suffix := String.ofList (handle.drop 1) ++ suffix
      return (if suffix = "" then .tag "" "!" else .tag "!" suffix, cursor)

/-- A tag, which has to be followed by a blank, or by a comma in a flow collection. -/
def tagToken (inFlow : Bool) (cursor : Cursor) : Except Nat (TokenKind × Cursor) := do
  let (kind, cursor) ← tagBody cursor
  if (inFlow && cursor.sees ',') || blankOrEnd cursor.rest then return (kind, cursor)
  else .error cursor.line

/-! ## Directives -/

/-- A number of one to nine digits. -/
def versionNumber (cursor : Cursor) : Except Nat (Nat × Cursor) :=
  let (digits, cursor) := cursor.span Char.isDigit
  match Numeral.read? 10 digits with
  | some n => if digits.length ≤ 9 then .ok (n, cursor) else .error cursor.line
  | none => .error cursor.line

/-- Two numbers with a point between them. -/
def versionBody (cursor : Cursor) : Except Nat (TokenKind × Cursor) := do
  let (major, cursor) ← versionNumber (cursor.skip isBlank)
  if !cursor.sees '.' then .error cursor.line
  let (minor, cursor) ← versionNumber (cursor.advance 1)
  return (.version major minor, cursor)

/-- A handle and what it stands for. -/
def tagHandleBody (cursor : Cursor) : Except Nat (TokenKind × Cursor) := do
  let ((handle, closed), cursor) ← tagHandlePart (cursor.skip isBlank)
  if !closed && handle ≠ ['!'] then .error cursor.line
  if !cursor.next isBlank then .error cursor.line
  let (meaning, cursor) ← uri true (cursor.skip isBlank)
  if blankOrEnd cursor.rest then return (.tagHandle (String.ofList handle) meaning, cursor)
  else .error cursor.line

/-- A directive with the rest of its line. -/
def directiveToken (cursor : Cursor) : Except Nat (TokenKind × Cursor) := do
  let (name, cursor) := (cursor.advance 1).span isWord
  if !blankOrEnd cursor.rest then .error cursor.line
  let (kind, cursor) ←
    if name = "YAML".toList then versionBody cursor
    else if name = "TAG".toList then tagHandleBody cursor
    else .error cursor.line
  let cursor := cursor.skipComment
  if cursor.atLineEnd then return (kind, cursor.lineBreak.2) else .error cursor.line

end AuditTrail.Yaml

/-!
# Places in a YAML text

A cursor is a place in a text: what follows it, and how many characters, lines and columns lie
before it. A step that can fail answers with its result and the place behind it, or with the line of
the failure.
-/

namespace AuditTrail.Yaml

/-- Space and tab. -/
def isBlank (c : Char) : Bool :=
  c = ' ' || c = '\t'

/-- The characters that end a line. -/
def isBreak (c : Char) : Bool :=
  c = '\n' || c = '\r' || c = '\u0085' || c = '\u2028' || c = '\u2029'

/-- Letters, digits, underscore and hyphen. -/
def isWord (c : Char) : Bool :=
  c.isAlphanum || c = '_' || c = '-'

/-- The characters that a text may hold. -/
def isAllowed (c : Char) : Bool :=
  let n := c.toNat
  n = 0x09 || n = 0x0A || n = 0x0D || (0x20 ≤ n && n ≤ 0x7E) || n = 0x85 ||
    (0xA0 ≤ n && n ≤ 0xD7FF) || (0xE000 ≤ n && n ≤ 0xFFFD && n ≠ 0xFEFF) || 0x10000 ≤ n

/-- A place in a text. -/
structure Cursor where
  rest : List Char
  index : Nat
  line : Nat
  column : Nat
  deriving DecidableEq, Repr, Inhabited

namespace Cursor

/-- The start of a text, counting lines from one. -/
def start (cs : List Char) : Cursor :=
  ⟨cs, 0, 1, 0⟩

/-- The place after some characters of the same line. -/
def advance (n : Nat) (cursor : Cursor) : Cursor :=
  let passed := (cursor.rest.take n).length
  { cursor with
    rest := cursor.rest.drop n
    index := cursor.index + passed
    column := cursor.column + passed }

/-- The place after a line break of some characters. -/
def nextLine (n : Nat) (cursor : Cursor) : Cursor :=
  { rest := cursor.rest.drop n, index := cursor.index + n, line := cursor.line + 1, column := 0 }

/-- The line break at a place, in its plain form, and the place after it. -/
def lineBreak (cursor : Cursor) : List Char × Cursor :=
  match cursor.rest with
  | '\r' :: '\n' :: _ => (['\n'], cursor.nextLine 2)
  | '\u2028' :: _ => (['\u2028'], cursor.nextLine 1)
  | '\u2029' :: _ => (['\u2029'], cursor.nextLine 1)
  | c :: _ => if isBreak c then (['\n'], cursor.nextLine 1) else ([], cursor)
  | [] => ([], cursor)

/-- The characters up to the first one that does not pass, and the place after them. They hold no
line break. -/
def span (p : Char → Bool) (cursor : Cursor) : List Char × Cursor :=
  let cs := cursor.rest.takeWhile p
  (cs, cursor.advance cs.length)

/-- The place after the characters that pass. -/
def skip (p : Char → Bool) (cursor : Cursor) : Cursor :=
  (cursor.span p).2

/-- The next character passes. -/
def next (p : Char → Bool) (cursor : Cursor) : Bool :=
  match cursor.rest with
  | c :: _ => p c
  | [] => false

/-- The next character is `c`. -/
def sees (c : Char) (cursor : Cursor) : Bool :=
  cursor.next (· = c)

/-- The text ends here. -/
def atEnd (cursor : Cursor) : Bool :=
  cursor.rest.isEmpty

end Cursor

/-- A text that begins with a blank or a line break or is empty. -/
def blankOrEnd : List Char → Bool
  | [] => true
  | c :: _ => isBlank c || isBreak c

/-- The line ends here. -/
def Cursor.atLineEnd (cursor : Cursor) : Bool :=
  cursor.atEnd || cursor.next isBreak

/-- The text of a line has some marker of a document: it begins with three of the character and is
blank after them. -/
def isMarker (c : Char) (cs : List Char) : Bool :=
  cs.take 3 = [c, c, c] && blankOrEnd (cs.drop 3)

/-- A marker of the start or the end of a document begins here. -/
def Cursor.atMarker (cursor : Cursor) : Bool :=
  cursor.column = 0 && (isMarker '-' cursor.rest || isMarker '.' cursor.rest)

/-- The place after blanks and a comment, if there is one. -/
def Cursor.skipComment (cursor : Cursor) : Cursor :=
  let cursor := cursor.skip isBlank
  if cursor.sees '#' then cursor.skip fun c ↦ !isBreak c else cursor

end AuditTrail.Yaml

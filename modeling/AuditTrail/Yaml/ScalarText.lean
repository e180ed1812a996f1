import AuditTrail.Yaml.Cursor
import AuditTrail.Yaml.Number
import AuditTrail.Decimal.Binary64

/-!
# Writing scalars in YAML

The written form of a text in a block mapping or sequence. A text stands plain unless that would
change its meaning, between single quotes if that is possible, and between double quotes with
escapes otherwise. A text with line feeds is a literal block where it can be.
-/

namespace AuditTrail.Yaml

/-- A character that is written as itself. -/
def isShown (c : Char) : Bool :=
  let n := c.toNat
  n = 0x0A || (0x20 ≤ n && n ≤ 0x7E) || (0xA0 ≤ n && n ≤ 0xD7FF) ||
    (0xE000 ≤ n && n ≤ 0xFFFD && n ≠ 0xFEFF)

/-- A blank, a line break or the character zero. -/
def separates (c : Char) : Bool :=
  isBlank c || isBreak c || c = '\x00'

/-- A text that begins with a separating character or is empty. -/
def separatedAt (cs : List Char) : Bool :=
  cs.head?.all separates

/-- The characters that mean something at the start of a scalar. -/
def indicators : List Char :=
  "#,[]\x7b\x7d&*!|>'\"%@`".toList

/-- Some character after the first one means something where it stands: a colon before a separation
or a number sign behind one. -/
def hasInnerIndicator (before : Char) : List Char → Bool
  | [] => false
  | c :: rest =>
    (c = ':' && separatedAt rest) || (c = '#' && separates before) || hasInnerIndicator c rest

/-- Some character means something where it stands. -/
def hasIndicator (cs : List Char) : Bool :=
  match cs with
  | [] => false
  | c :: rest =>
    ['-', '-', '-'] <+: cs || ['.', '.', '.'] <+: cs || indicators.contains c ||
      ((c = '?' || c = ':' || c = '-') && separatedAt rest) || hasInnerIndicator c rest

/-- Some character that passes the first test is followed by one that passes the second. -/
def hasPair (p q : Char → Bool) : List Char → Bool
  | c :: d :: rest => (p c && q d) || hasPair p q (d :: rest)
  | _ => false

/-- The character is the space. -/
def isSpace (c : Char) : Bool :=
  c = ' '

/-- The text can stand between single quotes. -/
def allowsSingleQuotes (cs : List Char) : Bool :=
  cs.all isShown && !hasPair isBreak isSpace cs && !hasPair isSpace isBreak cs

/-- The text can stand plain. -/
def allowsPlain (cs : List Char) : Bool :=
  allowsSingleQuotes cs && !cs.any isBreak && !cs.head?.any isSpace && !cs.getLast?.any isSpace &&
    !hasIndicator cs

/-- The text can stand in a block. -/
def allowsBlock (cs : List Char) : Bool :=
  cs.all isShown && !hasPair isSpace isBreak cs && !cs.getLast?.any isSpace

/-- The words that stand for yes and no, true and false. -/
def booleanWords : List String :=
  ["y", "Y", "yes", "Yes", "YES", "n", "N", "no", "No", "NO", "true", "True", "TRUE", "false",
    "False", "FALSE", "on", "On", "ON", "off", "Off", "OFF"]

/-- A plain scalar of the text would not be a text. -/
def meansOther (s : String) : Bool :=
  s = "" || isNullText s || booleanWords.contains s || isNumberText s.toList

/-! ## Written forms -/

/-- A text between single quotes, in which a quote is written twice and a line break is followed by
the indentation. -/
def singleQuotedChars (indent : Nat) (afterBreak : Bool) : List Char → List Char
  | [] => (if afterBreak then List.replicate indent ' ' else []) ++ ['\'']
  | c :: rest =>
    if isBreak c then c :: singleQuotedChars indent true rest
    else
      (if afterBreak && !isSpace c then List.replicate indent ' ' else []) ++
        (if c = '\'' then ['\'', '\''] else [c]) ++
        singleQuotedChars indent (afterBreak && isSpace c) rest

/-- The letter of an escape of one letter. -/
def escapeLetterOf? (c : Char) : Option Char :=
  match c with
  | '\x00' => some '0'
  | '\x07' => some 'a'
  | '\x08' => some 'b'
  | '\t' => some 't'
  | '\n' => some 'n'
  | '\x0b' => some 'v'
  | '\x0c' => some 'f'
  | '\r' => some 'r'
  | '\x1b' => some 'e'
  | '"' => some '"'
  | '\\' => some '\\'
  | '\u0085' => some 'N'
  | '\u00a0' => some '_'
  | '\u2028' => some 'L'
  | '\u2029' => some 'P'
  | _ => none

/-- Upper-case hexadecimal digits filled up to a width. -/
def hexPadded (width n : Nat) : List Char :=
  let digits := (Nat.toDigits 16 n).map Char.toUpper
  List.replicate (width - digits.length) '0' ++ digits

/-- A character between double quotes. -/
def doubleQuotedChar (c : Char) : List Char :=
  if isShown c && !isBreak c && c ≠ '"' && c ≠ '\\' then [c]
  else
    match escapeLetterOf? c with
    | some letter => ['\\', letter]
    | none =>
      if c.toNat ≤ 0xFF then '\\' :: 'x' :: hexPadded 2 c.toNat
      else if c.toNat ≤ 0xFFFF then '\\' :: 'u' :: hexPadded 4 c.toNat
      else '\\' :: 'U' :: hexPadded 8 c.toNat

/-- The lines of a block, each behind its indentation unless it is empty. -/
def blockChars (indent : Nat) (afterBreak : Bool) : List Char → List Char
  | [] => []
  | c :: rest =>
    if isBreak c then c :: blockChars indent true rest
    else (if afterBreak then List.replicate indent ' ' else []) ++ c :: blockChars indent false rest

/-- What the header of a literal block says about the line breaks at its end. -/
def chompMark (cs : List Char) : List Char :=
  match cs.reverse with
  | [] => ['-']
  | [c] => if isBreak c then ['+'] else ['-']
  | c :: d :: _ => if !isBreak c then ['-'] else if isBreak d then ['+'] else []

/-- A literal block. -/
def literalChars (indent : Nat) (cs : List Char) : List Char :=
  '|' :: (if cs.head?.any fun c ↦ isSpace c || isBreak c then ['2'] else []) ++ chompMark cs ++
    '\n' :: blockChars indent true cs

/-- The written form of a text whose further lines are indented by `indent`. -/
def scalarChars (indent : Nat) (s : String) : List Char :=
  let cs := s.toList
  if !booleanWords.contains s && cs.contains '\n' && allowsBlock cs then literalChars indent cs
  else if !meansOther s && !cs.contains '\n' && allowsPlain cs then cs
  else if !cs.contains '\n' && allowsSingleQuotes cs then '\'' :: singleQuotedChars indent false cs
  else '"' :: cs.flatMap doubleQuotedChar ++ ['"']

end AuditTrail.Yaml

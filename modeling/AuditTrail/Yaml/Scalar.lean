import AuditTrail.Yaml.Cursor
import AuditTrail.Decimal.Numeral

/-!
# Scalars in a YAML text

The text of a plain, quoted or block scalar at a place. Line breaks inside of plain and quoted
scalars and of folded blocks become spaces, except that further line breaks stay.
-/

namespace AuditTrail.Yaml

/-- How a scalar is written. -/
inductive ScalarStyle where
  | plain
  | singleQuoted
  | doubleQuoted
  | literal
  | folded
  deriving DecidableEq, Repr

/-- What separates the words of a scalar: blanks within a line, or a first line break and the line
breaks after it. -/
structure Gap where
  blanks : List Char
  breaks : Option (List Char × List Char)

namespace Gap

/-- No separation. -/
def none : Gap :=
  ⟨[], .none⟩

/-- The text of a first line break and the ones after it. -/
def foldBreaks (first others : List Char) : List Char :=
  if first = ['\n'] then (if others = [] then [' '] else others) else first ++ others

/-- The text that a gap stands for. -/
def text (gap : Gap) : List Char :=
  match gap.breaks with
  | .none => gap.blanks
  | some (first, others) => foldBreaks first others

/-- The gap at a place. A tab to the left of column `indent` on a line of its own is a failure. -/
def scan (indent : Nat) : (fuel : Nat) → Gap → Cursor → Except Nat (Gap × Cursor)
  | 0, gap, cursor => .ok (gap, cursor)
  | fuel + 1, gap, cursor =>
    match cursor.rest with
    | [] => .ok (gap, cursor)
    | c :: _ =>
      if isBlank c then
        match gap.breaks with
        | .none => scan indent fuel { gap with blanks := gap.blanks ++ [c] } (cursor.advance 1)
        | some _ =>
          if cursor.column < indent && c = '\t' then .error cursor.line
          else scan indent fuel gap (cursor.advance 1)
      else if isBreak c then
        let (text, cursor) := cursor.lineBreak
        match gap.breaks with
        | .none => scan indent fuel ⟨[], some (text, [])⟩ cursor
        | some (first, others) =>
          scan indent fuel { gap with breaks := some (first, others ++ text) } cursor
      else .ok (gap, cursor)

end Gap

/-! ## Plain scalars -/

/-- The characters that structure flow collections. -/
def isFlowMark (c : Char) : Bool :=
  c = ',' || c = '[' || c = ']' || c = '\x7b' || c = '\x7d'

/-- The word of a plain scalar at the start of a text, and whether it ends properly: in a flow
collection a colon may not touch a structuring character. -/
def plainWord (inFlow : Bool) : List Char → List Char × Bool
  | [] => ([], true)
  | c :: rest =>
    if isBlank c || isBreak c then ([], true)
    else if inFlow && c = ':' && (rest.head?.any fun d ↦ isFlowMark d || d = '?') then ([], false)
    else if (c = ':' && blankOrEnd rest) || (inFlow && isFlowMark c) then ([], true)
    else
      let (word, proper) := plainWord inFlow rest
      (c :: word, proper)

/-- The rest of a plain scalar: its text, and whether it ends behind a line break. -/
def plainRest (inFlow : Bool) (indent : Nat) :
    (fuel : Nat) → (before : List Char) → Gap → Cursor → Except Nat ((List Char × Bool) × Cursor)
  | 0, before, gap, cursor => .ok ((before, gap.breaks.isSome), cursor)
  | fuel + 1, before, gap, cursor =>
    if cursor.atMarker || cursor.sees '#' then .ok ((before, gap.breaks.isSome), cursor)
    else
      match plainWord inFlow cursor.rest with
      | (_, false) => .error cursor.line
      | ([], true) => .ok ((before, gap.breaks.isSome), cursor)
      | (word, true) =>
        let before := before ++ gap.text ++ word
        let cursor := cursor.advance word.length
        if cursor.next (fun c ↦ isBlank c || isBreak c) then do
          let (gap, cursor) ← Gap.scan indent cursor.rest.length .none cursor
          if !inFlow && cursor.column < indent then .ok ((before, gap.breaks.isSome), cursor)
          else plainRest inFlow indent fuel before gap cursor
        else .ok ((before, false), cursor)

/-- A plain scalar whose further lines begin at column `indent` or to the right of it. -/
def plainScalar (inFlow : Bool) (indent : Nat) (cursor : Cursor) :
    Except Nat ((List Char × Bool) × Cursor) :=
  plainRest inFlow indent cursor.rest.length.succ [] .none cursor

/-! ## Quoted scalars -/

/-- The character of an escape of one letter. -/
def escapeLetter? : Char → Option Char
  | '0' => some '\x00'
  | 'a' => some '\x07'
  | 'b' => some '\x08'
  | 't' => some '\t'
  | '\t' => some '\t'
  | 'n' => some '\n'
  | 'v' => some '\x0b'
  | 'f' => some '\x0c'
  | 'r' => some '\r'
  | 'e' => some '\x1b'
  | ' ' => some ' '
  | '"' => some '"'
  | '/' => some '/'
  | '\\' => some '\\'
  | 'N' => some '\u0085'
  | '_' => some '\u00a0'
  | 'L' => some '\u2028'
  | 'P' => some '\u2029'
  | _ => none

/-- The number of digits of a numeric escape. -/
def escapeDigits? : Char → Option Nat
  | 'x' => some 2
  | 'u' => some 4
  | 'U' => some 8
  | _ => none

/-- The character of an escape at the start of a text, after its backslash, and how long the escape
is. -/
def escape? : List Char → Option (Char × Nat)
  | [] => none
  | c :: rest =>
    match escapeLetter? c with
    | some d => some (d, 1)
    | none => do
      let width ← escapeDigits? c
      let digits := rest.take width
      let n ← if digits.length = width then Numeral.read? 16 digits else none
      if n.isValidChar then some (Char.ofNat n, width + 1) else none

/-- How a run of characters in a quoted scalar ends. -/
inductive QuotedEnd where
  /-- At a blank, a line break, a closing quote or the end of the text. -/
  | here
  /-- Behind an escaped line break. -/
  | escapedBreak
  deriving DecidableEq

/-- The characters of a quoted scalar up to a blank, a line break or the closing quote. -/
def quotedRun (single : Bool) :
    (fuel : Nat) → Cursor → Except Nat ((List Char × QuotedEnd) × Cursor)
  | 0, cursor => .ok (([], .here), cursor)
  | fuel + 1, cursor =>
    match cursor.rest with
    | [] => .ok (([], .here), cursor)
    | c :: rest =>
      if isBlank c || isBreak c then .ok (([], .here), cursor)
      else if single then
        if c = '\'' then
          if rest.head? = some '\'' then continueWith c fuel (cursor.advance 2)
          else .ok (([], .here), cursor)
        else continueWith c fuel (cursor.advance 1)
      else if c = '"' then .ok (([], .here), cursor)
      else if c = '\\' then
        if rest.head?.any isBreak then
          .ok (([], .escapedBreak), (cursor.advance 1).lineBreak.2)
        else
          match escape? rest with
          | some (d, width) => continueWith d fuel (cursor.advance (width + 1))
          | none => .error cursor.line
      else continueWith c fuel (cursor.advance 1)
where
  /-- A character before what follows. -/
  continueWith (c : Char) (fuel : Nat) (cursor : Cursor) :
      Except Nat ((List Char × QuotedEnd) × Cursor) := do
    let ((cs, ending), cursor) ← quotedRun single fuel cursor
    return ((c :: cs, ending), cursor)

/-- The rest of a quoted scalar with its closing quote. -/
def quotedRest (single : Bool) :
    (fuel : Nat) → (before : List Char) → Cursor → Except Nat (List Char × Cursor)
  | 0, _, cursor => .error cursor.line
  | fuel + 1, before, cursor => do
    if cursor.atMarker || cursor.atEnd then .error cursor.line
    let ((run, ending), cursor) ← quotedRun single cursor.rest.length.succ cursor
    if cursor.sees (if single then '\'' else '"') then return (before ++ run, cursor.advance 1)
    let gap : Gap := ⟨[], if ending = .escapedBreak then some ([], []) else none⟩
    let (gap, cursor) ← Gap.scan 0 cursor.rest.length gap cursor
    quotedRest single fuel (before ++ run ++ gap.text) cursor

/-- A quoted scalar. -/
def quotedScalar (single : Bool) (cursor : Cursor) : Except Nat (List Char × Cursor) :=
  quotedRest single cursor.rest.length.succ [] (cursor.advance 1)

/-! ## Block scalars -/

/-- What happens to the line breaks at the end of a block scalar. -/
inductive Chomping where
  | strip
  | clip
  | keep
  deriving DecidableEq

/-- The chomping that a character asks for. -/
def Chomping.ofChar? : Char → Option Chomping
  | '-' => some .strip
  | '+' => some .keep
  | _ => none

/-- The digit of a block header; zero is a failure. -/
def blockDigit (cursor : Cursor) : Except Nat (Option Nat × Cursor) :=
  match cursor.rest with
  | c :: _ =>
    if c.isDigit then
      if c = '0' then .error cursor.line
      else .ok (some (c.toNat - '0'.toNat), cursor.advance 1)
    else .ok (none, cursor)
  | [] => .ok (none, cursor)

/-- The chomping of a block header. -/
def blockChomping (cursor : Cursor) : Option Chomping × Cursor :=
  match cursor.rest.head?.bind Chomping.ofChar? with
  | some chomping => (some chomping, cursor.advance 1)
  | none => (none, cursor)

/-- Chomping and indentation of a block header, in either order. -/
def blockHeader (cursor : Cursor) : Except Nat ((Chomping × Option Nat) × Cursor) :=
  match blockChomping cursor with
  | (some chomping, cursor) => do
    let (digit, cursor) ← blockDigit cursor
    return ((chomping, digit), cursor)
  | (none, cursor) => do
    match ← blockDigit cursor with
    | (some digit, cursor) =>
      let (chomping, cursor) := blockChomping cursor
      return ((chomping.getD .clip, some digit), cursor)
    | (none, cursor) => return ((.clip, none), cursor)

/-- The empty lines at a place, and the column of the longest of them or of the next line. Lines
count as empty up to column `indent`, or wherever they end if there is none; a tab in there is a
failure. -/
def emptyLines (indent : Option Nat) :
    (fuel : Nat) → (breaks : List Char) → (widest : Nat) → Cursor →
      Except Nat ((List Char × Nat) × Cursor)
  | 0, breaks, widest, cursor => .ok ((breaks, widest), cursor)
  | fuel + 1, breaks, widest, cursor =>
    let spaces := cursor.rest.takeWhile (· = ' ')
    let cursor := cursor.advance <|
      match indent with
      | none => spaces.length
      | some indent => min spaces.length (indent - cursor.column)
    let widest := max widest cursor.column
    if indent.all (cursor.column < ·) && cursor.sees '\t' then .error cursor.line
    else if cursor.next isBreak then
      let (text, cursor) := cursor.lineBreak
      emptyLines indent fuel (breaks ++ text) widest cursor
    else .ok ((breaks, widest), cursor)

/-- The empty lines before the first line of a block, and the column of the block, which is not
left of `least`. -/
def blockStart (least : Nat) (indent : Option Nat) (cursor : Cursor) :
    Except Nat ((List Char × Nat) × Cursor) := do
  let ((breaks, widest), cursor) ← emptyLines indent cursor.rest.length.succ [] 0 cursor
  return ((breaks, indent.getD (max widest (max least 1))), cursor)

/-- The lines of a block at column `indent`: their text, the line break of the last one and the
line breaks after it. -/
def blockLines (literal : Bool) (indent : Nat) :
    (fuel : Nat) → (before last others : List Char) → (afterBlank : Bool) → Cursor →
      Except Nat ((List Char × List Char × List Char) × Cursor)
  | 0, before, last, others, _, cursor => .ok ((before, last, others), cursor)
  | fuel + 1, before, last, others, afterBlank, cursor =>
    if cursor.column = indent && !cursor.atEnd then do
      let blank := cursor.next isBlank
      let joint :=
        if !literal && last = ['\n'] && !afterBlank && !blank then
          (if others = [] then [' '] else others)
        else last ++ others
      let (text, cursor) := cursor.span fun c ↦ !isBreak c
      let (last, cursor) := cursor.lineBreak
      let ((others, _), cursor) ← emptyLines (some indent) cursor.rest.length.succ [] 0 cursor
      blockLines literal indent fuel (before ++ joint ++ text) last others blank cursor
    else .ok ((before, last, others), cursor)

/-- A block scalar inside of a collection at column `parent`, or outside of all if there is none. -/
def blockScalar (literal : Bool) (parent : Option Nat) (cursor : Cursor) :
    Except Nat (List Char × Cursor) := do
  let ((chomping, increment), cursor) ← blockHeader (cursor.advance 1)
  let cursor := cursor.skipComment
  if !cursor.atLineEnd then .error cursor.line
  let (_, cursor) := cursor.lineBreak
  let indent := increment.map fun n ↦ parent.getD 0 + n
  let ((others, indent), cursor) ← blockStart ((parent.map (· + 1)).getD 0) indent cursor
  let ((text, last, others), cursor) ←
    blockLines literal indent cursor.rest.length.succ [] [] others false cursor
  let text :=
    match chomping with
    | .strip => text
    | .clip => text ++ last
    | .keep => text ++ last ++ others
  return (text, cursor)

end AuditTrail.Yaml

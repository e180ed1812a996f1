import AuditTrail.Logging.Config
import AuditTrail.Text.Alphanumeric
import AuditTrail.Text.Blank
import AuditTrail.Text.Utf8

/-!
# Files of variables

A file of variables binds one variable in a line, `NAME=value`, possibly behind `export`. Values
may be quoted, may hold escapes and may refer to variables that are already known; a quoted value
may go on over several lines. A binding takes effect only if the variable is not set yet, and what
cannot be read ends the file.
-/

namespace AuditTrail

namespace Environment

/-- Sets a variable unless it is set. -/
def define (environment : Environment) (name value : String) : Environment :=
  if (environment.get? name).isSome then environment else environment.insert name value

end Environment

namespace EnvFile

/-! ## Lines -/

/-- What the characters of a line are part of. -/
inductive LineState where
  | bare
  | escape
  | singleQuotes
  | singleQuotesEscape
  | doubleQuotes
  | doubleQuotesEscape
  | space
  deriving DecidableEq, Repr

namespace LineState

/-- The state after a character outside of quotes. -/
def afterBare (c : Char) : LineState :=
  if c = '\\' then escape
  else if c = '"' then doubleQuotes
  else if c = '\'' then singleQuotes
  else bare

/-- The state after a character. -/
def after (c : Char) : LineState → LineState
  | bare => if Text.isBlank c && c ≠ '\n' && c ≠ '\r' then space else afterBare c
  | space => afterBare c
  | escape => bare
  | singleQuotes =>
    if c = '\\' then singleQuotesEscape else if c = '\'' then bare else singleQuotes
  | singleQuotesEscape => singleQuotes
  | doubleQuotes =>
    if c = '\\' then doubleQuotesEscape else if c = '"' then bare else doubleQuotes
  | doubleQuotesEscape => doubleQuotes

end LineState

/-- The first line of a text with its line break, and the rest of the text. -/
def splitLine : List Char → List Char × List Char
  | [] => ([], [])
  | '\n' :: rest => (['\n'], rest)
  | c :: rest =>
    let (line, rest) := splitLine rest
    (c :: line, rest)

theorem length_splitLine_lt (c : Char) (cs : List Char) :
    (splitLine (c :: cs)).2.length < (c :: cs).length := by
  induction cs generalizing c with
  | nil => by_cases h : c = '\n' <;> simp_all [splitLine]
  | cons d ds ih =>
    by_cases h : c = '\n'
    · subst h; simp [splitLine]
    · have := ih d
      simp only [splitLine, List.length_cons] at this ⊢
      omega

/-- How a line continues a statement: its characters up to a comment, whether a comment ends it,
and the state behind it. -/
def scanLine : LineState → List Char → List Char × Bool × LineState
  | state, [] => ([], false, state)
  | state, c :: rest =>
    if state = .space && c = '#' then ([], true, state)
    else
      let (cs, comment, state) := scanLine (state.after c) rest
      (c :: cs, comment, state)

/-- A text without the line break at its end. -/
def dropLineBreak (cs : List Char) : List Char :=
  match cs.reverse with
  | '\n' :: '\r' :: rest => rest.reverse
  | '\n' :: rest => rest.reverse
  | _ => cs

/-- A line whose first character that is no blank begins a comment. -/
def isComment (cs : List Char) : Bool :=
  (cs.dropWhile Text.isBlank).head? = some '#'

/-- The first statement of a text that begins with `before`, and the rest of the text. Nothing is
answered at the end of the text, and no statement if the text ends inside of one. -/
def statement? (before : List Char) (state : LineState) (cs : List Char) :
    Option (Option (List Char) × List Char) :=
  match cs with
  | [] => if state = .bare then none else some (none, [])
  | c :: cs =>
    let line := (splitLine (c :: cs)).1
    let rest := (splitLine (c :: cs)).2
    if isComment (before ++ line) then some (some [], rest)
    else
      match scanLine state line with
      | (text, true, _) => some (some (before ++ text), rest)
      | (text, false, .bare) => some (some (dropLineBreak (before ++ text)), rest)
      | (text, false, state) => statement? (before ++ text) state rest
  termination_by cs.length
  decreasing_by exact length_splitLine_lt c cs

/-! ## Bindings -/

/-- Variables that a file has bound so far; an empty value counts as none. -/
abbrev Known := Entries String

/-- The value of a variable for a reference: that of the process before that of the file. -/
def lookup (environment : Environment) (known : Known) (name : List Char) : List Char :=
  ((environment.get? (String.ofList name) <|> known.get? (String.ofList name)).getD "").toList

/-- What the characters of a value are part of. -/
inductive ValueState where
  | bare
  | singleQuotes
  | doubleQuotes
  /-- Behind a blank, where only a comment may follow. -/
  | ending
  /-- Behind a backslash, inside of double quotes or not. -/
  | escape (quoted : Bool)
  /-- In the name of a reference, with braces or not, inside of double quotes or not. -/
  | reference (braces quoted : Bool) (name : List Char)
  deriving DecidableEq, Repr

/-- The state outside of everything, inside of double quotes or not. -/
def ValueState.plain (quoted : Bool) : ValueState :=
  if quoted then .doubleQuotes else .bare

/-- The value that characters write, where `refer` gives the values of references. -/
def value? (refer : List Char → List Char) : ValueState → List Char → Option (List Char)
  | .bare, [] => some []
  | .ending, [] => some []
  | .escape false, [] => some []
  | .reference false false name, [] => some (refer name)
  | _, [] => none
  | .ending, c :: rest =>
    if c = ' ' || c = '\t' then value? refer .ending rest
    else if c = '#' then some []
    else none
  | .escape quoted, c :: rest =>
    if c = '\\' || c = '\'' || c = '"' || c = '$' || c = ' ' then
      (value? refer (.plain quoted) rest).map (c :: ·)
    else if c = 'n' then (value? refer (.plain quoted) rest).map ('\n' :: ·)
    else none
  | .singleQuotes, c :: rest =>
    if c = '\'' then value? refer .bare rest
    else (value? refer .singleQuotes rest).map (c :: ·)
  | .reference braces quoted name, c :: rest =>
    if Text.isAlphanumeric c then value? refer (.reference braces quoted (name ++ [c])) rest
    else if braces then
      if c = '\x7d' then (value? refer (.plain quoted) rest).map (refer name ++ ·)
      else value? refer (.reference true quoted (name ++ [c])) rest
    else if c = '\x7b' && name = [] then value? refer (.reference true quoted []) rest
    else if c = '$' then
      (value? refer (.reference false quoted []) rest).map (refer name ++ ·)
    else (value? refer (.plain quoted) rest).map (refer name ++ c :: ·)
  | .doubleQuotes, c :: rest =>
    if c = '$' then value? refer (.reference false true []) rest
    else if c = '"' then value? refer .bare rest
    else if c = '\\' then value? refer (.escape true) rest
    else (value? refer .doubleQuotes rest).map (c :: ·)
  | .bare, c :: rest =>
    if c = '$' then value? refer (.reference false false []) rest
    else if c = '\'' then value? refer .singleQuotes rest
    else if c = '"' then value? refer .doubleQuotes rest
    else if c = '\\' then value? refer (.escape false) rest
    else if c = ' ' || c = '\t' then value? refer .ending rest
    else (value? refer .bare rest).map (c :: ·)

/-- The characters of a name behind the first one. -/
def inName (c : Char) : Bool :=
  c.isAlphanum || c = '_' || c = '.'

/-- A name and what follows it and the blanks behind it. -/
def name? : List Char → Option (List Char × List Char)
  | [] => none
  | c :: rest =>
    if c.isAlpha || c = '_' then
      some ((c :: rest).takeWhile inName, ((c :: rest).dropWhile inName).dropWhile Text.isBlank)
    else none

/-- The name of a binding and what follows its equals sign. The word `export` in front of a name
means nothing. -/
def target? (cs : List Char) : Option (List Char × List Char) := do
  match ← name? cs with
  | (name, '=' :: rest) => some (name, rest)
  | (name, rest) =>
    if name = "export".toList then
      match ← name? rest with
      | (name, '=' :: rest) => some (name, rest)
      | _ => none
    else none

/-- A binding of a variable. -/
structure Binding where
  name : String
  value : String
  deriving DecidableEq, Repr

/-- The binding of a statement; nothing is bound by an empty one, and one that cannot be read has
no answer. -/
def binding? (refer : List Char → List Char) (statement : List Char) : Option (Option Binding) :=
  let cs := (Text.trim (String.ofList statement)).toList
  if cs = [] || cs.head? = some '#' then some none
  else do
    let (name, rest) ← target? cs
    let rest := rest.dropWhile Text.isBlank
    let value ← if rest = [] || rest.head? = some '#' then some [] else value? refer .bare rest
    return some ⟨String.ofList name, String.ofList value⟩

/-- The variables after the statements of a text, and whether all of it can be read. -/
def loadFrom (known : Known) (environment : Environment) :
    (fuel : Nat) → List Char → Environment × Bool
  | 0, _ => (environment, true)
  | fuel + 1, cs =>
    match statement? [] .bare cs with
    | none => (environment, true)
    | some (none, _) => (environment, false)
    | some (some statement, rest) =>
      match binding? (lookup environment known) statement with
      | none => (environment, false)
      | some none => loadFrom known environment fuel rest
      | some (some binding) =>
        loadFrom (known.insert binding.name binding.value)
          (environment.define binding.name binding.value) fuel rest

/-- The longest part of some bytes that is made of whole lines and encodes characters, and whether
that is all of them. -/
def readable : (fuel : Nat) → List UInt8 → List Char × Bool
  | 0, _ => ([], true)
  | _ + 1, [] => ([], true)
  | fuel + 1, bytes =>
    let line := bytes.takeWhile (· ≠ 10)
    let line := line ++ (bytes.drop line.length).take 1
    match Text.Utf8.decode? line with
    | some cs =>
      let (rest, complete) := readable fuel (bytes.drop line.length)
      (cs ++ rest, complete)
    | none => ([], false)

/-- The bytes that may stand before a text to say that it is one. -/
def byteOrderMark : List UInt8 :=
  [0xEF, 0xBB, 0xBF]

/-- The variables after a file, and whether all of it can be read. -/
def load (environment : Environment) (bytes : List UInt8) : Environment × Bool :=
  let bytes := if byteOrderMark <+: bytes then bytes.drop 3 else bytes
  match Text.Utf8.decode? bytes with
  | some cs => loadFrom [] environment cs.length.succ cs
  | none =>
    let (cs, _) := readable bytes.length.succ bytes
    ((loadFrom [] environment cs.length.succ cs).1, false)

end EnvFile

end AuditTrail

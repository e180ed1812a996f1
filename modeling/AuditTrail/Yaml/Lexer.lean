import AuditTrail.Yaml.Token

/-!
# Splitting a YAML text into tokens

Blocks begin and end by indentation. A key without an indicator of its own is known as a key only
by the colon behind it, so the tokens from the place of a possible key on are held back until it is
clear whether there is one.
-/

namespace AuditTrail.Yaml

/-- A place at which a key may have begun. -/
structure PossibleKey where
  /-- Nothing but a key can stand there. -/
  required : Bool
  /-- The number of the token that begins there. -/
  number : Nat
  index : Nat
  line : Nat
  column : Nat
  deriving Repr

/-- The state of splitting a text into tokens. -/
structure Lexer where
  cursor : Cursor
  /-- Tokens that are held back. -/
  held : List Token
  /-- The number of tokens that are not held back any more. -/
  passed : Nat
  /-- The column of the innermost block, which is -1 outside of all blocks. -/
  indent : Int
  /-- The columns of the blocks around the innermost one. -/
  outer : List Int
  keyAllowed : Bool
  /-- The possible key of every open flow collection, the innermost first, and of the block around
  them. -/
  keys : List (Option PossibleKey)

namespace Lexer

/-- The state at the start of a text. -/
def start (cs : List Char) : Lexer :=
  { cursor := .start cs, held := [], passed := 0, indent := -1, outer := [], keyAllowed := true
    keys := [none] }

/-- Some flow collection is open. -/
def inFlow (lexer : Lexer) : Bool :=
  1 < lexer.keys.length

/-- The state with a further token. -/
def push (kind : TokenKind) (line : Nat) (lexer : Lexer) : Lexer :=
  { lexer with held := lexer.held ++ [⟨kind, line⟩] }

/-- The state with a token before the one that has the number. -/
def insert (number : Nat) (kind : TokenKind) (line : Nat) (lexer : Lexer) : Lexer :=
  let place := number - lexer.passed
  { lexer with held := lexer.held.take place ++ ⟨kind, line⟩ :: lexer.held.drop place }

/-- Opens a block at a column if the column lies right of the innermost block. -/
def openBlock (column : Nat) (place : Lexer → Lexer) (lexer : Lexer) : Lexer :=
  if !lexer.inFlow && lexer.indent < column then
    place { lexer with indent := column, outer := lexer.indent :: lexer.outer }
  else lexer

/-- Closes the blocks right of a column, of which those around the innermost one are given. -/
def closeBlocksOf (column : Int) : List Int → Lexer → Lexer
  | [], lexer => lexer
  | indent :: outer, lexer =>
    if column < lexer.indent then
      closeBlocksOf column outer { lexer.push .blockEnd lexer.cursor.line with indent, outer }
    else lexer

/-- Closes the blocks right of a column. -/
def closeBlocks (column : Int) (lexer : Lexer) : Lexer :=
  if lexer.inFlow then lexer else closeBlocksOf column lexer.outer lexer

/-- A possible key can no longer be one: it does not reach beyond its line nor beyond 1024
characters. -/
def isStale (lexer : Lexer) (key : PossibleKey) : Bool :=
  key.line < lexer.cursor.line || key.index + 1024 < lexer.cursor.index

/-- Forgets the possible keys that can no longer be one. -/
def forgetStaleKeys (lexer : Lexer) : Except Nat Lexer :=
  if lexer.keys.any fun key ↦ key.any fun key ↦ key.required && lexer.isStale key then
    .error lexer.cursor.line
  else .ok { lexer with keys := lexer.keys.map fun key ↦ key.filter fun key ↦ !lexer.isStale key }

/-- Forgets the innermost possible key. -/
def forgetKey (lexer : Lexer) : Except Nat Lexer :=
  match lexer.keys with
  | [] => .ok lexer
  | key :: keys =>
    if key.any (·.required) then .error lexer.cursor.line
    else .ok { lexer with keys := none :: keys }

/-- Notes that a key may begin here. -/
def noteKey (lexer : Lexer) : Except Nat Lexer := do
  if !lexer.keyAllowed then return lexer
  let lexer ← lexer.forgetKey
  let key : PossibleKey :=
    { required := !lexer.inFlow && lexer.indent = lexer.cursor.column
      number := lexer.passed + lexer.held.length
      index := lexer.cursor.index
      line := lexer.cursor.line
      column := lexer.cursor.column }
  return { lexer with keys := some key :: lexer.keys.drop 1 }

/-- The state behind an indicator of `width` characters. -/
def mark (kind : TokenKind) (width : Nat) (lexer : Lexer) : Lexer :=
  { lexer.push kind lexer.cursor.line with cursor := lexer.cursor.advance width }

/-- The state behind a token that is read from the text. -/
def take (read : Cursor → Except Nat (TokenKind × Cursor)) (lexer : Lexer) : Except Nat Lexer := do
  let (kind, cursor) ← read lexer.cursor
  return { lexer.push kind lexer.cursor.line with cursor }

/-- The state with keys allowed or not. -/
def allowKeys (allowed : Bool) (lexer : Lexer) : Lexer :=
  { lexer with keyAllowed := allowed }

/-! ## The tokens -/

/-- The state at the next token, with blanks, comments and line breaks skipped. Tabs count as
blanks where no key can begin. -/
def skipToToken : (fuel : Nat) → Lexer → Lexer
  | 0, lexer => lexer
  | fuel + 1, lexer =>
    let tabs := lexer.inFlow || !lexer.keyAllowed
    let cursor := lexer.cursor.skip fun c ↦ c = ' ' || (tabs && c = '\t')
    let cursor := if cursor.sees '#' then cursor.skip fun c ↦ !isBreak c else cursor
    if cursor.next isBreak then
      skipToToken fuel
        { lexer with cursor := cursor.lineBreak.2, keyAllowed := lexer.keyAllowed || !lexer.inFlow }
    else { lexer with cursor }

/-- The end of the text, which is the start of a line. -/
def streamEnd (lexer : Lexer) : Except Nat Lexer := do
  let cursor := if lexer.cursor.column = 0 then lexer.cursor else lexer.cursor.nextLine 0
  let lexer ← (closeBlocks (-1) { lexer with cursor }).forgetKey
  return (lexer.allowKeys false).push .streamEnd cursor.line

/-- A token that ends all blocks. -/
def outermost (take : Lexer → Except Nat Lexer) (lexer : Lexer) : Except Nat Lexer := do
  take ((← (lexer.closeBlocks (-1)).forgetKey).allowKeys false)

/-- The start of a flow collection. -/
def flowStart (kind : TokenKind) (lexer : Lexer) : Except Nat Lexer := do
  let lexer ← lexer.noteKey
  return ({ lexer with keys := none :: lexer.keys }.allowKeys true).mark kind 1

/-- The end of a flow collection. -/
def flowEnd (kind : TokenKind) (lexer : Lexer) : Except Nat Lexer := do
  let lexer ← lexer.forgetKey
  let keys := if lexer.inFlow then lexer.keys.drop 1 else lexer.keys
  return ({ lexer with keys }.allowKeys false).mark kind 1

/-- The comma of a flow collection. -/
def flowEntry (lexer : Lexer) : Except Nat Lexer := do
  return ((← lexer.forgetKey).allowKeys true).mark .flowEntry 1

/-- Opens a block here, which is possible only where a key can begin. -/
def openBlockHere (kind : TokenKind) (lexer : Lexer) : Except Nat Lexer :=
  if lexer.inFlow then .ok lexer
  else if lexer.keyAllowed then
    .ok (lexer.openBlock lexer.cursor.column fun lexer ↦ lexer.push kind lexer.cursor.line)
  else .error lexer.cursor.line

/-- The hyphen of a block sequence. -/
def blockEntry (lexer : Lexer) : Except Nat Lexer := do
  let lexer ← lexer.openBlockHere .blockSequence
  return ((← lexer.forgetKey).allowKeys true).mark .blockEntry 1

/-- The question mark of a key. -/
def key (lexer : Lexer) : Except Nat Lexer := do
  let lexer ← (← lexer.openBlockHere .blockMapping).forgetKey
  return (lexer.allowKeys !lexer.inFlow).mark .key 1

/-- The colon of a value. It makes a key of what may be one. -/
def value (lexer : Lexer) : Except Nat Lexer := do
  match lexer.keys with
  | some key :: keys =>
    let lexer := lexer.insert key.number .key key.line
    let lexer := lexer.openBlock key.column (·.insert key.number .blockMapping key.line)
    return ({ lexer with keys := none :: keys }.allowKeys false).mark .value 1
  | _ =>
    let lexer ← lexer.openBlockHere .blockMapping
    return (lexer.allowKeys !lexer.inFlow).mark .value 1

/-- A token that can begin a key, after which none can begin. -/
def keyStart (read : Cursor → Except Nat (TokenKind × Cursor)) (lexer : Lexer) :
    Except Nat Lexer := do
  ((← lexer.noteKey).allowKeys false).take read

/-- A block scalar. -/
def block (literal : Bool) (lexer : Lexer) : Except Nat Lexer := do
  let lexer := (← lexer.forgetKey).allowKeys true
  let parent := if 0 ≤ lexer.indent then some lexer.indent.toNat else none
  lexer.take fun cursor ↦ do
    let (text, cursor) ← blockScalar literal parent cursor
    return (.scalar (if literal then .literal else .folded) (String.ofList text), cursor)

/-- A quoted scalar. -/
def quoted (single : Bool) (lexer : Lexer) : Except Nat Lexer :=
  lexer.keyStart fun cursor ↦ do
    let (text, cursor) ← quotedScalar single cursor
    return (.scalar (if single then .singleQuoted else .doubleQuoted) (String.ofList text), cursor)

/-- A plain scalar. Behind a line break a key can begin again. -/
def plain (lexer : Lexer) : Except Nat Lexer := do
  let lexer := (← lexer.noteKey).allowKeys false
  let ((text, atLineStart), cursor) ←
    plainScalar lexer.inFlow (lexer.indent + 1).toNat lexer.cursor
  return { lexer.push (.scalar .plain (String.ofList text)) lexer.cursor.line with
    cursor, keyAllowed := atLineStart }

/-- A plain scalar can begin with these characters. -/
def plainStarts (inFlow : Bool) : List Char → Bool
  | [] => false
  | c :: rest =>
    if c = '-' then !(rest.head?.any isBlank)
    else if c = '?' || c = ':' then !inFlow && !blankOrEnd rest
    else !("[]\x7b\x7d,#&*!|>'\"%@`".toList.contains c || isBlank c || isBreak c)

/-- The state with the next token, if there is one. -/
def next (lexer : Lexer) : Except Nat Lexer := do
  let lexer ← (lexer.skipToToken lexer.cursor.rest.length.succ).forgetStaleKeys
  let lexer := lexer.closeBlocks lexer.cursor.column
  let lineStart := lexer.cursor.column = 0
  match lexer.cursor.rest with
  | [] => lexer.streamEnd
  | c :: rest =>
    if lineStart && c = '%' then lexer.outermost fun lexer ↦ lexer.take directiveToken
    else if lineStart && isMarker '-' (c :: rest) then
      lexer.outermost fun lexer ↦ .ok (lexer.mark .documentStart 3)
    else if lineStart && isMarker '.' (c :: rest) then
      lexer.outermost fun lexer ↦ .ok (lexer.mark .documentEnd 3)
    else if c = '[' then lexer.flowStart .flowSequence
    else if c = '\x7b' then lexer.flowStart .flowMapping
    else if c = ']' then lexer.flowEnd .flowSequenceEnd
    else if c = '\x7d' then lexer.flowEnd .flowMappingEnd
    else if c = ',' then lexer.flowEntry
    else if c = '-' && blankOrEnd rest then lexer.blockEntry
    else if c = '?' && (lexer.inFlow || blankOrEnd rest) then lexer.key
    else if c = ':' && (lexer.inFlow || blankOrEnd rest) then lexer.value
    else if c = '*' then lexer.keyStart (anchorToken .alias)
    else if c = '&' then lexer.keyStart (anchorToken .anchor)
    else if c = '!' then lexer.keyStart (tagToken lexer.inFlow)
    else if c = '|' && !lexer.inFlow then lexer.block true
    else if c = '>' && !lexer.inFlow then lexer.block false
    else if c = '\'' then lexer.quoted true
    else if c = '"' then lexer.quoted false
    else if plainStarts lexer.inFlow (c :: rest) then lexer.plain
    else .error lexer.cursor.line

/-- The first token is held back because a key may begin with it. -/
def holdsBack (lexer : Lexer) : Bool :=
  lexer.keys.any fun key ↦ key.any fun key ↦ key.number = lexer.passed

/-- The tokens from a state on, and the line of the failure that ends them if one does. -/
def tokens : (fuel : Nat) → Lexer → List Token × Option Nat
  | 0, _ => ([], none)
  | fuel + 1, lexer =>
    match lexer.held with
    | [] =>
      match lexer.next with
      | .ok lexer => tokens fuel lexer
      | .error line => ([], some line)
    | token :: held =>
      match lexer.forgetStaleKeys with
      | .error line => ([], some line)
      | .ok lexer =>
        if lexer.holdsBack then
          match lexer.next with
          | .ok lexer => tokens fuel lexer
          | .error line => ([], some line)
        else if token.kind = .streamEnd then ([token], none)
        else
          let (rest, failure) := tokens fuel { lexer with held, passed := lexer.passed + 1 }
          (token :: rest, failure)

end Lexer

/-- The tokens of a text, and the line of the failure that ends them if one does. A text with a
character that no text may hold has no tokens. -/
def tokensOf (s : String) : List Token × Option Nat :=
  let cs := match s.toList with
    | '\uFEFF' :: rest => rest
    | cs => cs
  if cs.all isAllowed then (Lexer.start cs).tokens (16 * (cs.length + 4)) else ([], some 1)

end AuditTrail.Yaml

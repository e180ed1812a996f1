import AuditTrail.Yaml.Lexer

/-!
# Nodes of a YAML text

The tree of the first document of a text. A text may stop making sense somewhere: the tree then
ends in a cut, which is its last leaf, so that whoever reads the tree in order meets it only after
everything that stands before the failure.
-/

namespace AuditTrail.Yaml

/-- A node of a document. Nodes with an anchor have the number of the anchor, and an alias has the
number that it refers to. The children of a mapping are its keys and values in turn. -/
inductive Node where
  | scalar (line : Nat) (anchor : Option Nat) (tag : Option String) (style : ScalarStyle)
    (text : String)
  | sequence (line : Nat) (anchor : Option Nat) (tag : Option String) (items : List Node)
  | mapping (line : Nat) (anchor : Option Nat) (tag : Option String) (children : List Node)
  | alias (anchor : Nat)
  | cut
  deriving Inhabited

/-- The state of building nodes. -/
structure Composer where
  tokens : List Token
  /-- The line of the failure after the last token. -/
  endOfTokens : Nat
  /-- The line of the first failure that was met. -/
  failure : Option Nat
  /-- The anchors that were met and their numbers, the latest first. -/
  anchors : List (String × Nat)
  /-- What tag handles stand for. -/
  handles : List (String × String)

namespace Composer

/-- The next token, unless something failed. -/
def peek : StateM Composer (Option Token) := fun state ↦
  match state.failure, state.tokens with
  | some _, _ => (none, state)
  | none, [] => (none, { state with failure := some state.endOfTokens })
  | none, token :: _ => (some token, state)

/-- Leaves a token behind. -/
def drop : StateM Composer Unit :=
  modify fun state ↦ { state with tokens := state.tokens.drop 1 }

/-- Fails in a line. -/
def fail (line : Nat) : StateM Composer Unit :=
  modify fun state ↦ { state with failure := some line }

/-- Something failed. -/
def failed : StateM Composer Bool := do
  return (← get).failure.isSome

/-- Fails in a line and cuts the tree off. -/
def cutAt (line : Nat) : StateM Composer Node := do
  fail line
  return .cut

/-- The number of an anchor from here on: how many names of anchors were met before. -/
def number (name : String) : StateM Composer Nat := fun state ↦
  let n := (state.anchors.map (·.1)).eraseDups.length
  (n, { state with anchors := (name, n) :: state.anchors })

/-- The number of an anchor that may be missing. -/
def number? : Option String → StateM Composer (Option Nat)
  | some name => do return some (← number name)
  | none => return none

/-- An anchor, if there is one here. -/
def anchor? : StateM Composer (Option String) := do
  match ← peek with
  | some ⟨.anchor name, _⟩ => drop; return some name
  | _ => return none

/-- Handle, suffix and line of a tag, if there is one here. -/
def tag? : StateM Composer (Option (String × String × Nat)) := do
  match ← peek with
  | some ⟨.tag handle suffix, line⟩ => drop; return some (handle, suffix, line)
  | _ => return none

/-- The whole tag of a handle and a suffix; a handle that stands for nothing is a failure. -/
def resolve : Option (String × String × Nat) → StateM Composer (Option String)
  | none => return none
  | some (handle, suffix, line) => do
    if handle = "" then return some suffix
    match (← get).handles.lookup handle with
    | some meaning => return some (meaning ++ suffix)
    | none => fail line; return none

/-- A scalar without a text. -/
def emptyScalar (line : Nat) : Node :=
  .scalar line none none .plain ""

/-- A tag that says something about a scalar. -/
def scalarTag (tag : Option String) : Option String :=
  tag.filter (· ≠ "!")

mutual

/-- The node at the next token. -/
def node (inBlock indentless : Bool) : (fuel : Nat) → StateM Composer Node
  | 0 => return .cut
  | fuel + 1 => do
    match ← peek with
    | none => return .cut
    | some ⟨.alias name, line⟩ =>
      drop
      match (← get).anchors.lookup name with
      | some n => return .alias n
      | none => cutAt line
    | some ⟨_, line⟩ =>
      let first ← anchor?
      let handle ← tag?
      let second ← if first.isNone && handle.isSome then anchor? else pure none
      let anchor := first <|> second
      let some token ← peek | return .cut
      let tag ← resolve handle
      if ← failed then return .cut
      match token.kind with
      | .scalar style text => do
        drop
        return .scalar line (← number? anchor) (scalarTag tag) style text
      | .flowSequence => do
        let anchor ← number? anchor
        drop
        return .sequence line anchor tag (← flowItems true fuel)
      | .flowMapping => do
        let anchor ← number? anchor
        drop
        return .mapping line anchor tag (← flowMembers true fuel)
      | kind =>
        if indentless && kind = .blockEntry then do
          let anchor ← number? anchor
          return .sequence line anchor tag (← indentlessItems fuel)
        else if inBlock && kind = .blockSequence then do
          let anchor ← number? anchor
          drop
          return .sequence line anchor tag (← blockItems fuel)
        else if inBlock && kind = .blockMapping then do
          let anchor ← number? anchor
          drop
          return .mapping line anchor tag (← blockMembers fuel)
        else if anchor.isSome || tag.isSome then
          return .scalar line (← number? anchor) tag .plain ""
        else cutAt token.line

/-- A node, or a scalar without a text in a line if the next token is one of some. -/
def nodeUnless (stops : List TokenKind) (line : Nat) (inBlock indentless : Bool) :
    (fuel : Nat) → StateM Composer Node
  | 0 => return .cut
  | fuel + 1 => do
    match ← peek with
    | none => return .cut
    | some token =>
      if token.kind ∈ stops then return emptyScalar line else node inBlock indentless fuel

/-- The items of a block sequence. -/
def blockItems : (fuel : Nat) → StateM Composer (List Node)
  | 0 => return [.cut]
  | fuel + 1 => do
    match ← peek with
    | none => return [.cut]
    | some ⟨.blockEntry, line⟩ =>
      drop
      let item ← nodeUnless [.blockEntry, .blockEnd] line true false fuel
      if ← failed then return [item]
      return item :: (← blockItems fuel)
    | some ⟨.blockEnd, _⟩ => drop; return []
    | some token => return [← cutAt token.line]

/-- The items of a block sequence at the column of the key before it. -/
def indentlessItems : (fuel : Nat) → StateM Composer (List Node)
  | 0 => return [.cut]
  | fuel + 1 => do
    match ← peek with
    | none => return [.cut]
    | some ⟨.blockEntry, line⟩ =>
      drop
      let item ← nodeUnless [.blockEntry, .key, .value, .blockEnd] line true false fuel
      if ← failed then return [item]
      return item :: (← indentlessItems fuel)
    | some _ => return []

/-- The keys and values of a block mapping. -/
def blockMembers : (fuel : Nat) → StateM Composer (List Node)
  | 0 => return [.cut]
  | fuel + 1 => do
    match ← peek with
    | none => return [.cut]
    | some ⟨.key, line⟩ =>
      drop
      let key ← nodeUnless [.key, .value, .blockEnd] line true true fuel
      if ← failed then return [key]
      let value ← blockValue fuel
      if ← failed then return [key, value]
      return key :: value :: (← blockMembers fuel)
    | some ⟨.blockEnd, _⟩ => drop; return []
    | some token => return [← cutAt token.line]

/-- The value of a key in a block mapping. -/
def blockValue : (fuel : Nat) → StateM Composer Node
  | 0 => return .cut
  | fuel + 1 => do
    match ← peek with
    | none => return .cut
    | some ⟨.value, line⟩ =>
      drop
      nodeUnless [.key, .value, .blockEnd] line true true fuel
    | some token => return emptyScalar token.line

/-- The items of a flow sequence. A key without braces is a mapping with a single member. -/
def flowItems (first : Bool) : (fuel : Nat) → StateM Composer (List Node)
  | 0 => return [.cut]
  | fuel + 1 => do
    match ← peek with
    | none => return [.cut]
    | some ⟨.flowSequenceEnd, _⟩ => drop; return []
    | some token =>
      if !first then
        if token.kind = .flowEntry then drop else fail token.line
      match ← peek with
      | none => return [.cut]
      | some ⟨.flowSequenceEnd, _⟩ => drop; return []
      | some ⟨.key, line⟩ =>
        drop
        let item := Node.mapping line none none (← singleMember fuel)
        if ← failed then return [item]
        return item :: (← flowItems false fuel)
      | some _ =>
        let item ← node false false fuel
        if ← failed then return [item]
        return item :: (← flowItems false fuel)

/-- Key and value of a mapping with a single member. -/
def singleMember : (fuel : Nat) → StateM Composer (List Node)
  | 0 => return [.cut]
  | fuel + 1 => do
    let some token ← peek | return [.cut]
    let key ←
      if token.kind ∈ [.value, .flowEntry, .flowSequenceEnd] then do
        drop
        pure (emptyScalar token.line)
      else node false false fuel
    if ← failed then return [key]
    let some token ← peek | return [key, .cut]
    let value ←
      if token.kind = .value then do
        drop
        let some token ← peek | return [key, .cut]
        nodeUnless [.flowEntry, .flowSequenceEnd] token.line false false fuel
      else pure (emptyScalar token.line)
    if ← failed then return [key, value]
    let some _ ← peek | return [key, value, .cut]
    return [key, value]

/-- The keys and values of a flow mapping. -/
def flowMembers (first : Bool) : (fuel : Nat) → StateM Composer (List Node)
  | 0 => return [.cut]
  | fuel + 1 => do
    match ← peek with
    | none => return [.cut]
    | some ⟨.flowMappingEnd, _⟩ => drop; return []
    | some token =>
      if !first then
        if token.kind = .flowEntry then drop else fail token.line
      match ← peek with
      | none => return [.cut]
      | some ⟨.flowMappingEnd, _⟩ => drop; return []
      | some ⟨.key, _⟩ =>
        drop
        let some token ← peek | return [.cut]
        let key ← nodeUnless [.value, .flowEntry, .flowMappingEnd] token.line false false fuel
        if ← failed then return [key]
        let value ← flowValue fuel
        if ← failed then return [key, value]
        return key :: value :: (← flowMembers false fuel)
      | some _ =>
        let key ← node false false fuel
        if ← failed then return [key]
        let some token ← peek | return [key, .cut]
        return key :: emptyScalar token.line :: (← flowMembers false fuel)

/-- The value of a key in a flow mapping. -/
def flowValue : (fuel : Nat) → StateM Composer Node
  | 0 => return .cut
  | fuel + 1 => do
    let some token ← peek | return .cut
    if token.kind = .value then
      drop
      let some token ← peek | return .cut
      nodeUnless [.flowEntry, .flowMappingEnd] token.line false false fuel
    else return emptyScalar token.line

end

end Composer

end AuditTrail.Yaml

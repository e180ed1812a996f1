import AuditTrail.Yaml.Node

/-!
# YAML documents

The first document of a text, with what is wrong with the text and whether it goes on.
-/

namespace AuditTrail.Yaml

/-- The first document of a text. -/
structure Document where
  /-- The root, unless there is no document at all. -/
  root : Option Node
  /-- The line of the failure that cuts the document off or follows it. -/
  failure : Option Nat
  /-- Something follows the document. -/
  continues : Bool
  deriving Inhabited

namespace Composer

/-- What tag handles stand for in every document. -/
def standardHandles : List (String × String) :=
  [("!", "!"), ("!!", "tag:yaml.org,2002:")]

/-- The directives of a document, of which `version` tells whether one states a version. -/
def directives (version : Bool) : (fuel : Nat) → StateM Composer Unit
  | 0 => return
  | fuel + 1 => do
    match ← peek with
    | some ⟨.version major minor, line⟩ =>
      if version || major ≠ 1 || (minor ≠ 1 && minor ≠ 2) then fail line
      drop
      directives true fuel
    | some ⟨.tagHandle handle meaning, line⟩ =>
      if ((← get).handles.lookup handle).isSome then fail line
      modify fun state ↦ { state with handles := state.handles ++ [(handle, meaning)] }
      drop
      directives version fuel
    | _ => return

/-- The tokens before which a document has no content. -/
def endsContent : TokenKind → Bool
  | .version .. | .tagHandle .. | .documentStart | .documentEnd | .streamEnd => true
  | _ => false

/-- The root of a document behind its marker. -/
def content (fuel : Nat) : StateM Composer Node := do
  match ← peek with
  | none => return .cut
  | some token =>
    if endsContent token.kind then return emptyScalar token.line else node true false fuel

/-- The root of the first document, if there is one. -/
def firstRoot (fuel : Nat) : StateM Composer (Option Node) := do
  match ← peek with
  | none => return some .cut
  | some ⟨.streamEnd, _⟩ => return none
  | some token =>
    if token.kind = .documentStart || (endsContent token.kind && token.kind ≠ .documentEnd) then
      directives false fuel
      modify fun state ↦ { state with handles := state.handles ++ standardHandles }
      match ← peek with
      | some ⟨.documentStart, _⟩ => drop; return some (← content fuel)
      | some token => return some (← cutAt token.line)
      | none => return some .cut
    else
      modify fun state ↦ { state with handles := standardHandles }
      return some (← node true false fuel)

/-- Something follows behind the markers of a document's end. -/
def continues : (fuel : Nat) → StateM Composer Bool
  | 0 => return false
  | fuel + 1 => do
    match ← peek with
    | some ⟨.documentEnd, _⟩ => drop; continues fuel
    | some ⟨.streamEnd, _⟩ => return false
    | _ => return true

/-- The first document. -/
def document (fuel : Nat) : StateM Composer Document := do
  let root ← firstRoot fuel
  if root.isSome then
    if let some ⟨.documentEnd, _⟩ ← peek then drop
  let failure := (← get).failure
  let continues ← if root.isSome && failure.isNone then continues fuel else pure false
  return { root, failure, continues }

end Composer

/-- The first document of a text. -/
def Document.parse (s : String) : Document :=
  let (tokens, failure) := tokensOf s
  let composer : Composer :=
    { tokens, endOfTokens := failure.getD 1, failure := none, anchors := [], handles := [] }
  ((Composer.document (4 * tokens.length + 8)).run composer).1

/-- The nodes with an anchor, in the order of the text. -/
def Node.anchored : Node → List (Nat × Node)
  | node@(.scalar _ anchor _ _ _) => (anchor.map (·, node)).toList
  | node@(.sequence _ anchor _ items) => (anchor.map (·, node)).toList ++ anchoredAll items
  | node@(.mapping _ anchor _ children) => (anchor.map (·, node)).toList ++ anchoredAll children
  | .alias _ => []
  | .cut => []
where
  /-- The nodes with an anchor among some nodes and their children. -/
  anchoredAll : List Node → List (Nat × Node)
    | [] => []
    | node :: rest => node.anchored ++ anchoredAll rest

namespace Document

/-- The node that an alias stands for: the last one whose anchor has the number. -/
def target (document : Document) (anchor : Nat) : Node :=
  let nodes := (document.root.map Node.anchored).getD []
  ((nodes.reverse.lookup anchor)).getD .cut

/-- The node itself, or what it stands for if it is an alias. -/
def follow (document : Document) : Node → Node
  | .alias anchor => document.target anchor
  | node => node

end Document

end AuditTrail.Yaml

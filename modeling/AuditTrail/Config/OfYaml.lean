import AuditTrail.Config.Basic
import AuditTrail.Yaml.Document
import AuditTrail.Yaml.Number

/-!
# Configurations in YAML

A configuration is a mapping of three mappings, of which everything may be missing. Unknown names
are passed over; a name may not occur twice. What is wrong is told by its line, and in a text with
several faults the first one counts, also where the text stops making sense later.
-/

namespace AuditTrail

namespace Yaml

/-- A value that is read from a node, or the line of what is wrong with it. A fault without a line
of its own is one of the collection around it. -/
abbrev Read := Except (Option Nat)

/-- Gives a fault without a line the line of the collection around it. -/
def Read.within {α : Type} (line : Nat) : Read α → Read α
  | .error none => .error (some line)
  | read => read

namespace Node

/-- The document is cut off somewhere inside of the node. -/
def isCut : Node → Bool
  | cut => true
  | sequence _ _ _ items => anyCut items
  | mapping _ _ _ children => anyCut children
  | _ => false
where
  /-- The document is cut off inside of one of the nodes. -/
  anyCut : List Node → Bool
    | [] => false
    | node :: rest => node.isCut || anyCut rest

end Node

/-- The tag of integers. -/
def intTag : String :=
  "tag:yaml.org,2002:int"

/-- The tag of the null value. -/
def nullTag : String :=
  "tag:yaml.org,2002:null"

/-- The name that a tag of the document's own gives to a node. -/
def localTag? (tag : Option String) : Option String :=
  match tag.map String.toList with
  | some ['!'] => some "!"
  | some ('!' :: name) => some (String.ofList name)
  | _ => none

namespace Document

variable (document : Document)

/-- The fault of a document that is cut off. -/
def cutOff {α : Type} : Read α :=
  .error (some (document.failure.getD 1))

/-- The text of a scalar. -/
def text (node : Node) : Read String :=
  match document.follow node with
  | .scalar _ _ _ _ s => .ok s
  | .sequence line .. => .error (some line)
  | .mapping line .. => .error (some line)
  | .alias _ => document.cutOff
  | .cut => document.cutOff

/-- A natural number below a bound, which is not quoted. -/
def number (bound : Nat) (node : Node) : Read Nat :=
  match document.follow node with
  | .scalar line _ tag style s =>
    if style = .plain || (style = .literal && tag = some intTag) then
      match natBelow? bound s with
      | some n => .ok n
      | none => .error (some line)
    else .error (some line)
  | node => do
    let _ ← document.text node
    document.cutOff

/-- A text that may be missing. -/
def text? (node : Node) : Read (Option String) :=
  match document.follow node with
  | .scalar _ _ (some tag) .plain s =>
    if tag = nullTag then (if isNullText s then .ok none else .error none) else .ok (some s)
  | .scalar _ _ none .plain s => .ok (if s = "" || isNullText s then none else some s)
  | node => some <$> document.text node

/-- Texts in a sequence. -/
def texts : List Node → Read (List String)
  | [] => .ok []
  | node :: rest => do return (← document.text node) :: (← texts rest)

/-- A sequence of texts; a plain scalar without a text is an empty one. -/
def textList (node : Node) : Read (List String) :=
  match document.follow node with
  | .sequence line _ _ items => (document.texts items).within line
  | .scalar _ _ _ .plain "" => .ok []
  | .scalar line .. => .error (some line)
  | .mapping line .. => .error (some line)
  | .alias _ => document.cutOff
  | .cut => document.cutOff

/-- The value of a node that has a name: the text of a scalar, or a tag of the document's own on a
node that is null. -/
def named {α : Type} (ofName? : String → Option α) (node : Node) : Read α :=
  match document.follow node with
  | .scalar line _ tag style s =>
    match localTag? tag with
    | some name =>
      match ofName? name with
      | none => .error none
      | some a => if style = .plain && (s = "" || isNullText s) then .ok a else .error (some line)
    | none => (ofName? s).elim (.error (some line)) .ok
  | .sequence line _ tag _ => ofCollection line tag
  | .mapping line _ tag _ => ofCollection line tag
  | .alias _ => document.cutOff
  | .cut => document.cutOff
where
  /-- The fault of a collection in place of a name. -/
  ofCollection (line : Nat) (tag : Option String) : Read α :=
    match localTag? tag with
    | some name => if (ofName? name).isNone then .error none else .error (some line)
    | none => .error (some line)

/-- What the keys and values in turn make of `a`, where `field` reads the value of a known name.
The names that occurred are `seen`. -/
def members {α : Type} (field : String → Option (Node → α → Read α)) (seen : List String) :
    List Node → α → Read α
  | [], a => .ok a
  | [key], _ => do
    let _ ← document.text key
    document.cutOff
  | key :: value :: rest, a => do
    let name ← document.text key
    match field name with
    | some read =>
      if name ∈ seen then .error none
      else members field (name :: seen) rest (← read value a)
    | none => if value.isCut then document.cutOff else members field seen rest a

/-- What a mapping makes of `a`; a plain scalar without a text is an empty one. -/
def struct {α : Type} (field : String → Option (Node → α → Read α)) (node : Node) (a : α) :
    Read α :=
  match document.follow node with
  | .mapping line _ _ children => (document.members field [] children a).within line
  | .scalar _ _ _ .plain "" => .ok a
  | .scalar line .. => .error (some line)
  | .sequence line .. => .error (some line)
  | .alias _ => document.cutOff
  | .cut => document.cutOff

end Document

end Yaml

open Yaml (Node Read Document)

/-- The settings of rendering that a field changes. -/
def AuditConfig.yamlField (document : Document) :
    String → Option (Node → AuditConfig → Read AuditConfig)
  | "payload_limit_bytes" => some fun node config ↦
    return { config with payloadLimit := ← document.number Config.numberBound node }
  | "preview_limit_bytes" => some fun node config ↦
    return { config with previewLimit := ← document.number Config.numberBound node }
  | "excluded_fields" => some fun node config ↦
    return { config with excludedFields := ← document.textList node }
  | "date_format" => some fun node config ↦
    return { config with dateFormat := ← document.text node }
  | "under_limit_policy" => some fun node config ↦
    return { config with underLimitPolicy := ← document.named UnderLimitPolicy.ofName? node }
  | "max_depth" => some fun node config ↦
    return { config with maxDepth := ← document.number Config.numberBound node }
  | _ => none

/-- The settings of the workers that a field changes. -/
def DispatcherConfig.yamlField (document : Document) :
    String → Option (Node → DispatcherConfig → Read DispatcherConfig)
  | "workers" => some fun node config ↦
    return { config with workers := ← document.number Config.numberBound node }
  | "queue_capacity" => some fun node config ↦
    return { config with queueCapacity := ← document.number Config.numberBound node }
  | _ => none

/-- The settings of logging that a field changes. -/
def LoggingConfig.yamlField (document : Document) :
    String → Option (Node → LoggingConfig → Read LoggingConfig)
  | "level" => some fun node config ↦ return { config with level := ← document.text node }
  | "format" => some fun node config ↦ return { config with format := ← document.text node }
  | "file" => some fun node config ↦ return { config with file := ← document.text? node }
  | "audit_file" => some fun node config ↦ return { config with auditFile := ← document.text? node }
  | _ => none

/-- The configuration that a field changes. -/
def Config.yamlField (document : Document) : String → Option (Node → Config → Read Config)
  | "audit" => some fun node config ↦
    return { config with audit := ← document.struct (AuditConfig.yamlField document) node {} }
  | "dispatcher" => some fun node config ↦
    return { config with
      dispatcher := ← document.struct (DispatcherConfig.yamlField document) node {} }
  | "logging" => some fun node config ↦
    return { config with logging := ← document.struct (LoggingConfig.yamlField document) node {} }
  | _ => none

/-- The configuration of a document. -/
def Config.ofDocument (document : Document) : Read Config := do
  let config ←
    match document.root with
    | some root => document.struct (Config.yamlField document) root {}
    | none => .ok {}
  match document.failure with
  | some line => .error (some line)
  | none => if document.continues then .error none else .ok config

/-- The configuration of a text, or the line of what is wrong with it. A text of several documents
is wrong in no line. -/
def Config.ofYaml (s : String) : Read Config :=
  Config.ofDocument (Document.parse s)

end AuditTrail

import AuditTrail.Decimal.Numeral
import AuditTrail.Logging.Config
import AuditTrail.Text.Alphanumeric
import AuditTrail.Text.Blank

/-!
# Log filters

A filter is a list of directives. A directive names a level and, if it likes, the targets it is
about, and of all directives that are about an event the most particular one decides. The text of a
filter has its directives between commas; where `=` or brackets stand in a directive is counted
from its first character that is not blank.
-/

namespace AuditTrail.Log

/-- What a filter says about some events. -/
structure Directive where
  /-- About targets that begin with this text, or about all targets. -/
  target : Option String
  /-- About events inside of such a span only. -/
  span : Option String
  /-- About events that have this field only. -/
  field : Option String
  /-- The least severe level that is let through, if any is. -/
  level : Option Level
  deriving DecidableEq, Repr

/-- The directives of a filter, in order. -/
abbrev Filter := List Directive

/-! ## Reading -/

namespace Directive

/-- The names of levels in directives; the last one lets nothing through. -/
def levelNames : List (String × Option Level) :=
  [("error", some .error), ("warn", some .warn), ("info", some .info), ("debug", some .debug),
    ("trace", some .trace), ("off", none)]

/-- The level that a text of a directive names, by its name or number. -/
def level? (s : String) : Option (Option Level) :=
  match Numeral.natBelow? 6 s with
  | some 0 => some none
  | some n => (levelNames[n - 1]?).map (·.2)
  | none => (levelNames.find? fun name ↦ name.1 = Text.asciiLowercase s).map (·.2)

/-- The characters from one place up to another one. -/
def slice (cs : List Char) (start stop : Nat) : String :=
  String.ofList ((cs.drop start).take (stop - start))

/-- The place from `start` on of the first character that passes. -/
def place? (cs : List Char) (start : Nat) (pass : Char → Bool) : Option Nat :=
  ((cs.drop start).findIdx? pass).map (start + ·)

/-- The directive whose level begins at a place. -/
def withLevel? (cs : List Char) (start : Nat) (directive : Directive) : Option Directive :=
  match slice cs start cs.length with
  | "" => some { directive with level := some .trace }
  | s => (level? s).map fun level ↦ { directive with level }

/-- The directive whose brackets end before a place. -/
def afterBrackets? (cs marks : List Char) (start : Nat) (directive : Directive) :
    Option Directive :=
  match marks.drop start with
  | [] => some { directive with level := some .trace }
  | '=' :: _ => withLevel? cs (start + 1) directive
  | _ => none

/-- The directive whose field begins at a place. A field with a value is one of spans only. -/
def withField? (cs marks : List Char) (start : Nat) (directive : Directive) : Option Directive := do
  let stop ← place? marks start (· = '\x7d')
  let field := slice cs start stop
  if field = "" ∨ marks[stop + 1]? ≠ some ']' then none
  else if '=' ∈ field.toList then
    afterBrackets? cs marks (stop + 2) { directive with span := directive.span <|> some "" }
  else afterBrackets? cs marks (stop + 2) { directive with field := some field }

/-- The directive whose brackets begin before a place. -/
def withBrackets? (cs marks : List Char) (start : Nat) (directive : Directive) :
    Option Directive := do
  let stop ← place? marks start fun c ↦ c = ']' || c = '\x7b'
  let span := slice cs start stop
  if marks[stop]? = some ']' then
    afterBrackets? cs marks (stop + 1) { directive with span := some span }
  else if span = "" then withField? cs marks (stop + 1) directive
  else withField? cs marks (stop + 1) { directive with span := some span }

/-- A directive that is a level or else a target. -/
def ofName (s : String) : Directive :=
  match level? s with
  | some level => ⟨none, none, none, level⟩
  | none => ⟨some s, none, none, some .trace⟩

/-- A target or a level can begin with the character. -/
def beginsName (c : Char) : Bool :=
  Text.isAlphanumeric c || c = '-' || c = ':' || c = '_'

/-- The directive that a text writes. -/
def parse? (s : String) : Option Directive :=
  let cs := s.toList
  let marks := (Text.trim s).toList
  match marks with
  | [] => none
  | c :: _ =>
    if c = '[' then withBrackets? cs marks 1 ⟨none, none, none, none⟩
    else if beginsName c then
      match place? marks 0 fun c ↦ c = '=' || c = '[' with
      | none => some (ofName s)
      | some stop =>
        let directive : Directive := ⟨some (slice cs 0 stop), none, none, none⟩
        if marks[stop]? = some '=' then withLevel? cs (stop + 1) directive
        else withBrackets? cs marks (stop + 1) directive
    else none

/-! ## Meaning -/

/-- The directive is about an event that is outside of all spans. -/
def isAbout (event : Event) (directive : Directive) : Bool :=
  directive.span.isNone &&
    directive.target.all (fun target ↦ target.toList.isPrefixOf event.target.toList) &&
    directive.field.all fun field ↦ event.fields.any fun other ↦ other.1 = field

/-- How particular a directive is: the longer its target the more, and then by its field. -/
def specificity (directive : Directive) : Nat :=
  2 * (directive.target.map fun target ↦ target.utf8ByteSize + 1).getD 0 +
    if directive.field.isSome then 1 else 0

/-- The directive goes before an earlier one if both are about an event. -/
def overrules (directive earlier : Directive) : Bool :=
  earlier.specificity < directive.specificity ||
    earlier.specificity = directive.specificity &&
      decide (earlier.field.getD "" ≤ directive.field.getD "")

/-- The directive lets a level through. -/
def admits (level : Level) (directive : Directive) : Bool :=
  directive.level.any fun least ↦ level.verbosity ≤ least.verbosity

end Directive

namespace Filter

/-- The filter that lets a level and all more severe ones through. -/
def ofLevel (level : Level) : Filter :=
  [⟨none, none, none, some level⟩]

/-- The filter that a text writes; a text without directives lets errors through. -/
def parse? (s : String) : Option Filter :=
  ((s.splitOn ",").filter (· ≠ "")).mapM Directive.parse? |>.map fun filter ↦
    if filter.isEmpty then ofLevel .error else filter

/-- The directive that decides on an event. -/
def deciding? (event : Event) (filter : Filter) : Option Directive :=
  (filter.filter (·.isAbout event)).foldl
    (fun best directive ↦
      if best.all directive.overrules then some directive else best) none

/-- The filter lets an event through. -/
def admits (event : Event) (filter : Filter) : Bool :=
  (filter.deciding? event).any (·.admits event.level)

@[simp] theorem admits_ofLevel (event : Event) (level : Level) :
    (ofLevel level).admits event = decide (event.level.verbosity ≤ level.verbosity) := by
  simp [ofLevel, admits, deciding?, Directive.isAbout, Directive.admits]

/-- The filter of a process: that of its variable if the variable holds one, and otherwise that of
the level of its setup. -/
def ofEnvironment (environment : Environment) (level : Level) : Filter :=
  ((environment.get? LogConfig.filterKey).bind parse?).getD (ofLevel level)

end Filter

end AuditTrail.Log

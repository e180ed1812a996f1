import AuditTrail.Text.Lowercase
import AuditTrail.Entries

/-!
# Field filters

A filter knows the names that never appear in a record. Names are compared by their lower-case
forms, so neither case nor order nor repetition matters in the list that a filter is made from.
-/

namespace AuditTrail

/-- The lower-case forms of the excluded names, in ascending order. -/
structure FieldFilter where
  excluded : List String
  deriving DecidableEq, Repr

namespace FieldFilter

/-- The filter that excludes some names. -/
def ofNames (names : List String) : FieldFilter :=
  ⟨(Entries.ofList (names.map fun name ↦ (Text.lowercase name, ()))).map (·.1)⟩

/-- The name may appear. -/
def includes (filter : FieldFilter) (name : String) : Bool :=
  !filter.excluded.contains (Text.lowercase name)

/-- The filter of an application that says nothing about it. -/
def standard : FieldFilter :=
  ofNames ["logger"]

end FieldFilter

end AuditTrail

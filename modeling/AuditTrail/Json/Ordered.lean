import AuditTrail.Entries
import AuditTrail.Json.Basic

/-!
# Documents with ordered members

The form of a document in which the members of every object are in ascending order of their names
and no name occurs twice. Of members with the same name the last one stays.
-/

namespace AuditTrail.Json

mutual

/-- The document with ordered members at every depth. -/
def ordered : Json → Json
  | arr items => arr (orderedItems items)
  | obj members => obj (Entries.ofList (orderedMembers members))
  | j => j

/-- The items of an array with ordered members. -/
def orderedItems : List Json → List Json
  | [] => []
  | item :: rest => ordered item :: orderedItems rest

/-- The members of an object, each with ordered members of its own. -/
def orderedMembers : List (String × Json) → List (String × Json)
  | [] => []
  | (name, value) :: rest => (name, ordered value) :: orderedMembers rest

end

end AuditTrail.Json

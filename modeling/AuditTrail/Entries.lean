/-!
# Entries in key order

A finite map from texts, kept as its entries in ascending order of their keys by code point, with
no key twice.
-/

namespace AuditTrail

/-- Entries of a map, in ascending order of their keys. -/
abbrev Entries (α : Type) := List (String × α)

namespace Entries

variable {α : Type}

/-- Adds an entry, replacing the one with the same key. -/
def insert (key : String) (value : α) : Entries α → Entries α
  | [] => [(key, value)]
  | (k, v) :: rest =>
    if key < k then (key, value) :: (k, v) :: rest
    else if key = k then (key, value) :: rest
    else (k, v) :: insert key value rest

/-- The map of a list of entries, of which a later one replaces an earlier one. -/
def ofList (entries : List (String × α)) : Entries α :=
  entries.foldl (fun map entry ↦ map.insert entry.1 entry.2) []

/-- The value under a key. -/
def get? (key : String) (entries : Entries α) : Option α :=
  (entries.find? fun entry ↦ entry.1 = key).map (·.2)

@[simp] theorem insert_nil (key : String) (value : α) :
    insert key value [] = [(key, value)] := rfl

@[simp] theorem ofList_nil : ofList ([] : List (String × α)) = [] := rfl

@[simp] theorem get?_nil (key : String) : get? key ([] : Entries α) = none := rfl

theorem get?_cons (key k : String) (v : α) (rest : Entries α) :
    get? key ((k, v) :: rest) = if k = key then some v else get? key rest := by
  by_cases h : k = key <;> simp [get?, h]

/-- An added entry is the one that is found under its key, and nothing else changes. -/
theorem get?_insert (key other : String) (value : α) (entries : Entries α) :
    get? other (insert key value entries) =
      if key = other then some value else get? other entries := by
  induction entries with
  | nil => rw [insert_nil, get?_cons]
  | cons entry rest ih =>
    obtain ⟨k, v⟩ := entry
    unfold insert
    split
    · rw [get?_cons]
    · split
      next _ key_eq =>
        subst key_eq
        by_cases h : key = other <;> simp [get?_cons, h]
      next _ key_ne =>
        rw [get?_cons, ih, get?_cons]
        by_cases h : k = other
        · subst h
          simp [key_ne]
        · simp [h]

end Entries

end AuditTrail

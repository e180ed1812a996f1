import Mathlib
import AuditTrail.Proofs.Serialize.FieldDump
import AuditTrail.Proofs.Serialize.JsonValues
import AuditTrail.Proofs.Text.Lowercase

/-!
# What a field filter distinguishes

A filter keeps the lower-case forms of the names that it is made from, in order and each of them
once, and looks for the lower-case form of a name among them.  So it is the same filter after its
names have been spelled in another way, put in another order or repeated, and after it has been made
again from what it keeps; and it answers the same for a name that is spelled in another way.

The converse holds as well.  Lists of names whose filters always answer the same are edited into
each other by such steps, names for which all filters answer the same are respelled into each other,
and nothing but a respelling of a listed name is excluded.
-/

namespace AuditTrail

/-! ## Maps are in order -/

namespace Entries

variable {α : Type}

theorem isAscending_insert {entries : Entries α} (ascending : IsAscending entries) (key : String)
    (value : α) : IsAscending (entries.insert key value) := by
  induction entries with
  | nil => exact List.pairwise_singleton _ _
  | cons entry rest ih =>
    obtain ⟨k, v⟩ := entry
    have ascending_cons := ascending
    rw [IsAscending, List.map_cons, List.pairwise_cons] at ascending_cons
    obtain ⟨k_lt, rest_ascending⟩ := ascending_cons
    rw [insert]
    split
    next lt =>
      refine List.pairwise_cons.mpr ⟨fun other other_mem ↦ ?_, ascending⟩
      obtain rfl | other_mem := List.mem_cons.mp other_mem
      · exact lt
      · exact lt.trans (k_lt other other_mem)
    next key_ge =>
      split
      next key_eq =>
        subst key_eq
        exact ascending
      next key_ne =>
        have k_lt_key : k < key := lt_of_le_of_ne (not_lt.mp key_ge) (Ne.symm key_ne)
        refine List.pairwise_cons.mpr ⟨fun other other_mem ↦ ?_, ih rest_ascending⟩
        obtain rfl | other_mem := mem_keys_insert.mp other_mem
        · exact k_lt_key
        · exact k_lt other other_mem

theorem isAscending_ofList (entries : List (String × α)) : IsAscending (ofList entries) := by
  suffices from_map : ∀ map : Entries α, IsAscending map →
      IsAscending (entries.foldl (fun map entry ↦ insert entry.1 entry.2 map) map) from
    from_map [] List.Pairwise.nil
  induction entries with
  | nil => exact fun _ ascending ↦ ascending
  | cons entry rest ih =>
    exact fun map ascending ↦ ih _ (isAscending_insert ascending entry.1 entry.2)

end Entries

/-! ## The names that a filter keeps -/

namespace FieldFilter

open Relation (EqvGen)

open Text (Respelling eqvGen_respelling_iff)

theorem mem_excluded_ofNames {names : List String} {name : String} :
    name ∈ (ofNames names).excluded ↔ name ∈ names.map Text.lowercase := by
  rw [ofNames, Entries.mem_keys_ofList, List.map_map]
  rfl

/-- Filters that keep the same names are the same, since they keep them in order. -/
theorem ofNames_eq_of_forall_mem {names others : List String}
    (same : ∀ name, name ∈ names.map Text.lowercase ↔ name ∈ others.map Text.lowercase) :
    ofNames names = ofNames others := by
  have ascending : ∀ list, (ofNames list).excluded.Pairwise (· < ·) :=
    fun list ↦ Entries.isAscending_ofList _
  have nodup : ∀ list, (ofNames list).excluded.Nodup := fun list ↦ (ascending list).imp ne_of_lt
  have perm : (ofNames names).excluded.Perm (ofNames others).excluded :=
    (List.perm_ext_iff_of_nodup (nodup names) (nodup others)).mpr fun name ↦ by
      rw [mem_excluded_ofNames, mem_excluded_ofNames, same]
  have excluded_eq : (ofNames names).excluded = (ofNames others).excluded :=
    perm.eq_of_pairwise (fun _ _ _ _ lt gt ↦ absurd gt lt.asymm) (ascending names)
      (ascending others)
  exact congrArg FieldFilter.mk excluded_eq

/-- A name is excluded if a listed name is respelled into it, and only then. -/
theorem includes_ofNames_eq_false_iff {names : List String} {name : String} :
    (ofNames names).includes name = false ↔ ∃ entry ∈ names, EqvGen Respelling entry name := by
  rw [← Bool.not_eq_true, includes_ofNames]
  simp only [eqvGen_respelling_iff, not_forall, not_not, exists_prop]

/-! ## Edits -/

/-- A change to the list of names that a filter is made from. -/
inductive Edit : List String → List String → Prop
  | respell {first rest : List String} {entry other : String}
      (respelling : Respelling entry other) :
    Edit (first ++ entry :: rest) (first ++ other :: rest)
  | reorder {names others : List String} (perm : names.Perm others) : Edit names others
  | repeatEntry {names : List String} {entry : String} (entry_mem : entry ∈ names) :
    Edit names (entry :: names)
  /-- The list is replaced by the names that the filter keeps. -/
  | rebuild (names : List String) : Edit names (ofNames names).excluded

theorem ofNames_excluded (names : List String) :
    ofNames (ofNames names).excluded = ofNames names := by
  refine ofNames_eq_of_forall_mem fun name ↦ ?_
  constructor
  · intro name_mem
    obtain ⟨kept, kept_mem, rfl⟩ := List.mem_map.mp name_mem
    obtain ⟨entry, entry_mem, rfl⟩ := List.mem_map.mp (mem_excluded_ofNames.mp kept_mem)
    rw [Text.lowercase_lowercase]
    exact List.mem_map_of_mem entry_mem
  · intro name_mem
    obtain ⟨entry, entry_mem, rfl⟩ := List.mem_map.mp name_mem
    exact List.mem_map.mpr ⟨_, mem_excluded_ofNames.mpr name_mem, Text.lowercase_lowercase entry⟩

/-- An edit does not change the filter. -/
theorem Edit.ofNames_eq {names others : List String} (edit : Edit names others) :
    ofNames names = ofNames others := by
  cases edit with
  | respell respelling =>
    refine ofNames_eq_of_forall_mem fun name ↦ ?_
    rw [List.map_append, List.map_append, List.map_cons, List.map_cons, respelling.lowercase_eq]
  | reorder perm => exact ofNames_eq_of_forall_mem fun name ↦ (perm.map _).mem_iff
  | repeatEntry entry_mem =>
    refine ofNames_eq_of_forall_mem fun name ↦ ?_
    rw [List.map_cons, List.mem_cons]
    exact (or_iff_right_of_imp fun name_eq ↦ name_eq ▸ List.mem_map_of_mem entry_mem).symm
  | rebuild => exact (ofNames_excluded names).symm

/-- Lists of names are edited into each other if they make the same filter, and only then. -/
theorem eqvGen_edit_iff {names others : List String} :
    EqvGen Edit names others ↔ ofNames names = ofNames others :=
  Text.eqvGen_iff_of_normalForm excluded (fun _ _ edit ↦ edit.ofNames_eq) Edit.rebuild

/-- A filter is known by the names that pass. -/
theorem ofNames_eq_iff_includes {names others : List String} :
    ofNames names = ofNames others ↔
      ∀ name, (ofNames names).includes name = (ofNames others).includes name := by
  refine ⟨fun filter_eq name ↦ by rw [filter_eq], fun same ↦ ofNames_eq_of_forall_mem ?_⟩
  -- A listed name is excluded itself, so the other list has a respelling of it.
  have subset : ∀ {list more : List String},
      (∀ name, (ofNames list).includes name = (ofNames more).includes name) →
        ∀ name ∈ list.map Text.lowercase, name ∈ more.map Text.lowercase := by
    intro list more same name name_mem
    obtain ⟨entry, entry_mem, rfl⟩ := List.mem_map.mp name_mem
    have excluded : (ofNames list).includes entry = false :=
      includes_ofNames_eq_false_iff.mpr ⟨entry, entry_mem, .refl entry⟩
    rw [same] at excluded
    obtain ⟨other, other_mem, respelled⟩ := includes_ofNames_eq_false_iff.mp excluded
    exact List.mem_map.mpr ⟨other, other_mem, eqvGen_respelling_iff.mp respelled⟩
  exact fun name ↦ ⟨subset same name, subset (fun name ↦ (same name).symm) name⟩

/-- A name and its respellings pass the same filters. -/
theorem lowercase_eq_iff_includes {name other : String} :
    Text.lowercase name = Text.lowercase other ↔
      ∀ names, (ofNames names).includes name = (ofNames names).includes other := by
  refine ⟨fun lowercase_eq names ↦ by rw [includes, includes, lowercase_eq], fun same ↦ ?_⟩
  have excluded : (ofNames [name]).includes name = false :=
    includes_ofNames_eq_false_iff.mpr ⟨name, List.mem_cons_self, .refl name⟩
  rw [same] at excluded
  obtain ⟨entry, entry_mem, respelled⟩ := includes_ofNames_eq_false_iff.mp excluded
  rw [← List.mem_singleton.mp entry_mem]
  exact eqvGen_respelling_iff.mp respelled

/-- **Filters answer by the names as such, not by how they are written down.**  Two lists of names
make filters with the same answers if and only if they are edited into each other: letters of ASCII
in an entry have another case, an entry is replaced by its lower-case form, entries are put in
another order, an entry is repeated, or the list is replaced by the names that its filter keeps.
All filters have the same answer for two names if and only if these are respelled into each other in
the first two of these ways.  And the names that a filter excludes are those that a listed name is
respelled into. -/
theorem includes_ofNames_iff_edits :
    (∀ names others, EqvGen Edit names others ↔
      ∀ name, (ofNames names).includes name = (ofNames others).includes name) ∧
    (∀ name other, EqvGen Respelling name other ↔
      ∀ names, (ofNames names).includes name = (ofNames names).includes other) ∧
    ∀ names name, (ofNames names).includes name = false ↔
      ∃ entry ∈ names, EqvGen Respelling entry name :=
  ⟨fun _ _ ↦ eqvGen_edit_iff.trans ofNames_eq_iff_includes,
    fun _ _ ↦ eqvGen_respelling_iff.trans lowercase_eq_iff_includes,
    fun _ _ ↦ includes_ofNames_eq_false_iff⟩

/-- The sigma that ends a word and the dotted capital I, which becomes two characters. -/
example : (ofNames ["ΟΔΟΣ", "İD", "οδος", "Logger"]).excluded = ["i\u0307d", "logger", "οδος"] := by
  decide +kernel

end FieldFilter

end AuditTrail

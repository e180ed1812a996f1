import Mathlib
import AuditTrail.Object
import AuditTrail.Proofs.View.Brackets

/-!
# What a document has under excluded names

Names are excluded at every depth of a document, and the outermost member whose name does not pass
hides everything below it.  Replacing what is hidden keeps the rest of the document in place, so
two documents that differ in hidden values only are documents with the same blank form.

A described entry is a text made from a whole document, hidden members included.  Documents with
the same blank form have the same described entries if nothing is hidden in these, and otherwise
there is a document with the same blank form and a different description: one more pair of brackets
around each hidden value.
-/

namespace AuditTrail

namespace Json

section Hidden

variable (keep : String → Bool)

mutual

/-- The document with `f` applied to the outermost values whose names do not pass. -/
def replaceHidden (f : Json → Json) : Json → Json
  | arr items => arr (replaceHiddenItems f items)
  | obj members => obj (replaceHiddenMembers f members)
  | j => j

/-- The items of an array, each with its hidden values replaced. -/
def replaceHiddenItems (f : Json → Json) : List Json → List Json
  | [] => []
  | item :: rest => replaceHidden f item :: replaceHiddenItems f rest

/-- The members of an object with their hidden values replaced. -/
def replaceHiddenMembers (f : Json → Json) : List (String × Json) → List (String × Json)
  | [] => []
  | (name, value) :: rest =>
    (name, if keep name then replaceHidden f value else f value) :: replaceHiddenMembers f rest

end

mutual

/-- The number of outermost members whose names do not pass. -/
def hidden : Json → Nat
  | arr items => hiddenItems items
  | obj members => hiddenMembers members
  | _ => 0

/-- The number of such members in the items of an array. -/
def hiddenItems : List Json → Nat
  | [] => 0
  | item :: rest => hidden item + hiddenItems rest

/-- The number of such members among and in the members of an object. -/
def hiddenMembers : List (String × Json) → Nat
  | [] => 0
  | (name, value) :: rest => (if keep name then hidden value else 1) + hiddenMembers rest

end

/-- The document with every hidden value replaced by null. -/
def blank : Json → Json :=
  replaceHidden keep fun _ ↦ null

/-- The document with every hidden value put into an array. -/
def wrap : Json → Json :=
  replaceHidden keep fun value ↦ arr [value]

variable (f g : Json → Json)

mutual

theorem replaceHidden_replaceHidden : ∀ j : Json,
    replaceHidden keep f (replaceHidden keep g j) = replaceHidden keep (fun value ↦ f (g value)) j
  | arr items => congrArg arr (replaceHiddenItems_replaceHiddenItems items)
  | obj members => congrArg obj (replaceHiddenMembers_replaceHiddenMembers members)
  | null | bool _ | int _ | float _ | str _ => rfl

theorem replaceHiddenItems_replaceHiddenItems : ∀ items : List Json,
    replaceHiddenItems keep f (replaceHiddenItems keep g items) =
      replaceHiddenItems keep (fun value ↦ f (g value)) items
  | [] => rfl
  | item :: rest => by
    simp only [replaceHiddenItems, replaceHidden_replaceHidden item,
      replaceHiddenItems_replaceHiddenItems rest]

theorem replaceHiddenMembers_replaceHiddenMembers : ∀ members : List (String × Json),
    replaceHiddenMembers keep f (replaceHiddenMembers keep g members) =
      replaceHiddenMembers keep (fun value ↦ f (g value)) members
  | [] => rfl
  | (name, value) :: rest => by
    by_cases h : keep name = true
    · simp only [replaceHiddenMembers, if_pos h, replaceHidden_replaceHidden value,
        replaceHiddenMembers_replaceHiddenMembers rest]
    · simp only [replaceHiddenMembers, if_neg h, replaceHiddenMembers_replaceHiddenMembers rest]

end

mutual

/-- Replacing hidden values hides as much as before. -/
theorem hidden_replaceHidden : ∀ j : Json, hidden keep (replaceHidden keep f j) = hidden keep j
  | arr items => hiddenItems_replaceHiddenItems items
  | obj members => hiddenMembers_replaceHiddenMembers members
  | null | bool _ | int _ | float _ | str _ => rfl

theorem hiddenItems_replaceHiddenItems : ∀ items : List Json,
    hiddenItems keep (replaceHiddenItems keep f items) = hiddenItems keep items
  | [] => rfl
  | item :: rest => by
    rw [replaceHiddenItems, hiddenItems, hiddenItems, hidden_replaceHidden item,
      hiddenItems_replaceHiddenItems rest]

theorem hiddenMembers_replaceHiddenMembers : ∀ members : List (String × Json),
    hiddenMembers keep (replaceHiddenMembers keep f members) = hiddenMembers keep members
  | [] => rfl
  | (name, value) :: rest => by
    by_cases h : keep name = true
    · simp only [replaceHiddenMembers, hiddenMembers, if_pos h, hidden_replaceHidden value,
        hiddenMembers_replaceHiddenMembers rest]
    · simp only [replaceHiddenMembers, hiddenMembers, if_neg h,
        hiddenMembers_replaceHiddenMembers rest]

end

mutual

/-- Where nothing is hidden, nothing is replaced. -/
theorem replaceHidden_of_hidden : ∀ {j : Json}, hidden keep j = 0 → replaceHidden keep f j = j
  | arr _, zero => congrArg arr (replaceHiddenItems_of_hidden zero)
  | obj _, zero => congrArg obj (replaceHiddenMembers_of_hidden zero)
  | null, _ | bool _, _ | int _, _ | float _, _ | str _, _ => rfl

theorem replaceHiddenItems_of_hidden : ∀ {items : List Json},
    hiddenItems keep items = 0 → replaceHiddenItems keep f items = items
  | [], _ => rfl
  | item :: rest, zero => by
    obtain ⟨item_zero, rest_zero⟩ := Nat.add_eq_zero_iff.mp zero
    rw [replaceHiddenItems, replaceHidden_of_hidden item_zero,
      replaceHiddenItems_of_hidden rest_zero]

theorem replaceHiddenMembers_of_hidden : ∀ {members : List (String × Json)},
    hiddenMembers keep members = 0 → replaceHiddenMembers keep f members = members
  | [], _ => rfl
  | (name, value) :: rest, zero => by
    obtain ⟨value_zero, rest_zero⟩ := Nat.add_eq_zero_iff.mp zero
    by_cases h : keep name = true
    · rw [if_pos h] at value_zero
      rw [replaceHiddenMembers, if_pos h, replaceHidden_of_hidden value_zero,
        replaceHiddenMembers_of_hidden rest_zero]
    · rw [if_neg h] at value_zero
      exact absurd value_zero Nat.one_ne_zero

end

theorem replaceHiddenMembers_eq_map (members : List (String × Json)) :
    replaceHiddenMembers keep f members = members.map fun member ↦
      (member.1, if keep member.1 then replaceHidden keep f member.2 else f member.2) := by
  induction members with
  | nil => rfl
  | cons member rest ih => rw [replaceHiddenMembers, ih, List.map_cons]

@[simp] theorem blank_replaceHidden (j : Json) :
    (replaceHidden keep f j).blank keep = j.blank keep :=
  replaceHidden_replaceHidden keep _ f j

theorem hidden_blank (j : Json) : hidden keep (j.blank keep) = hidden keep j :=
  hidden_replaceHidden keep _ j

mutual

/-- Wrapping hidden values adds one bracket for each. -/
theorem count_wrap : ∀ j : Json,
    (chars (j.wrap keep)).count '[' = (chars j).count '[' + hidden keep j
  | arr items => by
    have items_eq := count_wrapItems items
    rw [wrap, replaceHidden, count_chars_arr, count_chars_arr, items_eq, hidden]
    omega
  | obj members => by
    rw [wrap, replaceHidden, count_chars_obj, count_chars_obj, count_wrapMembers members, hidden]
  | null | bool _ | int _ | float _ | str _ => rfl

theorem count_wrapItems : ∀ items : List Json,
    ((replaceHiddenItems keep (fun value ↦ arr [value]) items).map
        fun item ↦ (chars item).count '[').sum =
      (items.map fun item ↦ (chars item).count '[').sum + hiddenItems keep items
  | [] => rfl
  | item :: rest => by
    have item_eq := count_wrap item
    have rest_eq := count_wrapItems rest
    rw [wrap] at item_eq
    rw [replaceHiddenItems, List.map_cons, List.sum_cons, List.map_cons, List.sum_cons, hiddenItems]
    omega

theorem count_wrapMembers : ∀ members : List (String × Json),
    ((replaceHiddenMembers keep (fun value ↦ arr [value]) members).map
        fun member ↦ brackets member.1 + (chars member.2).count '[').sum =
      (members.map fun member ↦ brackets member.1 + (chars member.2).count '[').sum +
        hiddenMembers keep members
  | [] => rfl
  | (name, value) :: rest => by
    have rest_eq := count_wrapMembers rest
    rw [replaceHiddenMembers, List.map_cons, List.sum_cons, List.map_cons, List.sum_cons,
      hiddenMembers]
    by_cases h : keep name = true
    · have value_eq := count_wrap value
      rw [wrap] at value_eq
      simp only [if_pos h]
      omega
    · have wrapped : (chars (arr [value])).count '[' = (chars value).count '[' + 1 := by
        rw [count_chars_arr, List.map_singleton, List.sum_singleton]
      simp only [if_neg h]
      omega

end

end Hidden

end Json

/-! ## Described entries -/

namespace Foreign

/-- The documents under the names that an object made from a document has: the members of an object,
or a single entry `value`. -/
def presented : Json → List (String × Json)
  | .obj members => members
  | j => [("value", j)]

theorem descriptionOfJson_eq_map (j : Json) :
    descriptionOfJson j = (presented j).map fun entry ↦ (entry.1, describedJson entry.2) := by
  cases j <;> rfl

variable (keep : String → Bool)

/-- The presented entries whose names pass. -/
def kept (j : Json) : List (String × Json) :=
  (presented j).filter fun entry ↦ keep entry.1

/-- No described entry hides anything. -/
def IsOpen (j : Json) : Prop :=
  ∀ entry ∈ presented j, keep entry.1 = true → entry.2.hidden keep = 0

instance (j : Json) : Decidable (IsOpen keep j) :=
  inferInstanceAs (Decidable (∀ entry ∈ presented j, _))

/-- Replacing hidden values leaves the entries in place. -/
theorem kept_replaceHidden (f : Json → Json) (j : Json) :
    kept keep (j.replaceHidden keep f) =
      (kept keep j).map fun entry ↦ (entry.1, entry.2.replaceHidden keep f) := by
  cases j with
  | obj members =>
    rw [kept, kept, Json.replaceHidden, presented, presented, Json.replaceHiddenMembers_eq_map,
      List.filter_map]
    refine List.map_congr_left fun member member_mem ↦ ?_
    have passes : keep member.1 = true := (List.mem_filter.mp member_mem).2
    rw [if_pos passes]
  | null | bool | int | float | str | arr =>
    by_cases h : keep "value" = true
    · simp only [kept, presented, Json.replaceHidden, List.filter_cons, if_pos h, List.filter_nil,
        List.map_cons, List.map_nil]
    · simp only [kept, presented, Json.replaceHidden, List.filter_cons, if_neg h, List.filter_nil,
        List.map_nil]

/-- The description of a document shows the kept entries. -/
theorem filter_descriptionOfJson (j : Json) :
    ((descriptionOfJson j).filter fun entry ↦ keep entry.1) =
      (kept keep j).map fun entry ↦ (entry.1, describedJson entry.2) := by
  rw [descriptionOfJson_eq_map, List.filter_map]
  rfl

variable {keep}

/-- If no described entry hides anything, then documents with the same blank form have the same kept
entries. -/
theorem kept_eq_of_blank {j k : Json} (opened : IsOpen keep j)
    (same : k.blank keep = j.blank keep) :
    kept keep k = kept keep j := by
  have kept_blank (c : Json) (hidden_zero : ∀ entry ∈ kept keep c, entry.2.hidden keep = 0) :
      kept keep (c.blank keep) = kept keep c := by
    have unchanged : ∀ entry ∈ kept keep c,
        (entry.1, entry.2.replaceHidden keep fun _ ↦ .null) = entry := fun entry entry_mem ↦ by
      rw [Json.replaceHidden_of_hidden keep _ (hidden_zero entry entry_mem)]
    rw [Json.blank, kept_replaceHidden, List.map_congr_left unchanged, List.map_id']
  have j_zero : ∀ entry ∈ kept keep j, entry.2.hidden keep = 0 := fun entry entry_mem ↦
    opened entry (List.mem_filter.mp entry_mem).1 (List.mem_filter.mp entry_mem).2
  have k_zero : ∀ entry ∈ kept keep k, entry.2.hidden keep = 0 := by
    intro entry entry_mem
    have blank_mem : (entry.1, entry.2.blank keep) ∈ kept keep j := by
      rw [← kept_blank j j_zero, ← same, Json.blank, kept_replaceHidden]
      exact List.mem_map.mpr ⟨entry, entry_mem, rfl⟩
    rw [← Json.hidden_blank]
    exact j_zero _ blank_mem
  rw [← kept_blank k k_zero, same, kept_blank j j_zero]

variable (keep) in
/-- A described text has one bracket more for each value that is hidden in it and gets wrapped. -/
theorem brackets_describedJson_wrap (j : Json) :
    brackets (describedJson (j.wrap keep)) = brackets (describedJson j) + j.hidden keep := by
  have brackets_render (c : Json) : brackets c.render = c.chars.count '[' := by
    rw [brackets, Json.render, String.toList_ofList]
  cases j with
  | str s => rfl
  | null | bool | int | float | arr | obj =>
    change brackets (Json.render (Json.wrap keep _)) = brackets (Json.render _) + _
    rw [brackets_render, brackets_render, Json.count_wrap]

/-- The object that presents a serializable value is made from its document alone. -/
theorem toObject_eq {a b : Foreign} (same : a.toJson = b.toJson) (typeName : String) :
    a.toObject typeName = b.toObject typeName := by
  rw [toObject, toObject, same]

theorem describe_toObject {a : Foreign} {j : Json} (a_eq : a.toJson = .ok j) (typeName : String) :
    (a.toObject typeName).describe keep =
      (kept keep j).map fun entry ↦ (entry.1, describedJson entry.2) := by
  have document_eq : (document j).toJson = .ok j := rfl
  rw [toObject_eq (a_eq.trans document_eq.symm)]
  exact filter_descriptionOfJson keep j

/-- If no described entry hides anything, then the described text depends on the blank form of the
document only. -/
theorem describedText_eq_of_blank {a b : Foreign} {j k : Json} (a_eq : a.toJson = .ok j)
    (b_eq : b.toJson = .ok k) (opened : IsOpen keep j) (same : k.blank keep = j.blank keep)
    (typeName : String) :
    (b.toObject typeName).describedText keep = (a.toObject typeName).describedText keep := by
  rw [Object.describedText, Object.describedText, describe_toObject a_eq, describe_toObject b_eq,
    kept_eq_of_blank opened same]
  rfl

/-- If a described entry hides something, then wrapping what is hidden shows. -/
theorem brackets_describedText_wrap {a : Foreign} {j : Json} (a_eq : a.toJson = .ok j)
    (leaks : ¬ IsOpen keep j) (typeName : String) :
    brackets ((a.toObject typeName).describedText keep) <
      brackets (((document (j.wrap keep)).toObject typeName).describedText keep) := by
  have wrapped_eq : (document (j.wrap keep)).toJson = .ok (j.wrap keep) := rfl
  rw [Object.brackets_describedText, Object.brackets_describedText, describe_toObject a_eq,
    describe_toObject wrapped_eq, Json.wrap, kept_replaceHidden, List.map_map, List.map_map,
    List.map_map]
  refine Nat.add_lt_add_left (List.sum_lt_sum _ _ (fun entry _ ↦ ?_) ?_) _
  · have entry_eq := brackets_describedJson_wrap keep entry.2
    rw [Json.wrap] at entry_eq
    simp only [Function.comp_apply]
    omega
  · simp only [IsOpen, not_forall] at leaks
    obtain ⟨entry, entry_mem, passes, hidden_ne⟩ := leaks
    refine ⟨entry, List.mem_filter.mpr ⟨entry_mem, passes⟩, ?_⟩
    have entry_eq := brackets_describedJson_wrap keep entry.2
    rw [Json.wrap] at entry_eq
    simp only [Function.comp_apply]
    omega

end Foreign

end AuditTrail

import AuditTrail.Value.View

/-!
# The objects that a text view shows

A text view enters lists, maps and records, leaves out the names that do not pass, and stops at
objects, which are shown by a text of their own.  So a view is a function of the texts of the
objects that it meets, and it breaks off exactly if one of them does.

This is what keeps the two fallback tiers from following an object graph: the objects that are shown
are read off the finite tree of the value.
-/

namespace AuditTrail

namespace Written

/-- A text put together from parts is written to its end if all parts are. -/
theorem complete_join (separator : String) (parts : List Written) :
    (join separator parts).complete = parts.all (·.complete) := by
  induction parts with
  | nil => rfl
  | cons a rest ih =>
    cases rest with
    | nil => rw [join_singleton, List.all_cons, List.all_nil, Bool.and_true]
    | cons b rest =>
      rw [join_cons_cons, complete_append, complete_append, ih, List.all_cons]
      exact congrArg (· && _) (Bool.and_true a.complete)

/-- Complete parts are joined as texts are. -/
theorem text_join {separator : String} {parts : List Written}
    (complete : ∀ part ∈ parts, part.complete = true) :
    (join separator parts).text = separator.intercalate (parts.map (·.text)) := by
  induction parts with
  | nil => rfl
  | cons a rest ih =>
    have rest_complete : ∀ part ∈ rest, part.complete = true := fun part part_mem ↦
      complete part (List.mem_cons_of_mem a part_mem)
    have a_complete : a.complete = true := complete a List.mem_cons_self
    cases rest with
    | nil => rw [join_singleton, List.map_cons, List.map_nil, String.intercalate_singleton]
    | cons b rest =>
      have head_complete : (a ++ whole separator).complete = true := by
        rw [complete_append, a_complete]
        rfl
      rw [join_cons_cons, text_append, if_pos head_complete, text_append, if_pos a_complete,
        ih rest_complete]
      exact String.intercalate_cons_cons.symm

end Written

namespace Value

/-- An enclosed text is written to its end if all parts are. -/
theorem complete_enclose (head : String) (parts : List Written) (close : String) :
    (enclose head parts close).complete = parts.all (·.complete) := by
  rw [enclose, Written.complete_append, Written.complete_append, Written.complete_join]
  exact Bool.and_true _

/-- The text that encloses complete parts. -/
theorem text_enclose {head close : String} {parts : List Written}
    (complete : ∀ part ∈ parts, part.complete = true) :
    (enclose head parts close).text =
      head ++ ", ".intercalate (parts.map (·.text)) ++ close := by
  have joined : (Written.join ", " parts).complete = true := by
    rw [Written.complete_join, List.all_eq_true]
    exact complete
  rw [enclose, Written.text_append, Written.whole_append, if_pos joined, Written.text_join complete]
  rfl

/-! ## Shown objects -/

mutual

/-- The objects that a view meets, in the order in which it meets them. -/
def shown (keep : String → Bool) : Value → List ObjectId
  | list items => shownItems keep items
  | map entries => shownFields keep entries
  | record _ fields => shownFields keep fields
  | object id => [id]
  | _ => []

/-- The objects that the views of some values meet. -/
def shownItems (keep : String → Bool) : List Value → List ObjectId
  | [] => []
  | item :: rest => shown keep item ++ shownItems keep rest

/-- The objects that the views of the fields whose names pass meet. -/
def shownFields (keep : String → Bool) : List (String × Value) → List ObjectId
  | [] => []
  | (name, value) :: rest =>
    if keep name then shown keep value ++ shownFields keep rest else shownFields keep rest

end

section Congruence

variable {showObject₁ showObject₂ : ObjectId → Written} {keep : String → Bool}

mutual

/-- Views agree if they agree on the objects that are shown. -/
theorem view_congr : ∀ {value : Value},
    (∀ id ∈ value.shown keep, showObject₁ id = showObject₂ id) →
      view showObject₁ keep value = view showObject₂ keep value
  | list items, same => by rw [view, view, viewItems_congr same]
  | map entries, same => by rw [view, view, viewFields_congr same]
  | record typeName fields, same => by rw [view, view, viewFields_congr same]
  | object id, same => same id List.mem_cons_self
  | null, _ | bool _, _ | int _, _ | float _, _ | text _, _ | bytes _, _ | timestamp _, _ => rfl

theorem viewItems_congr : ∀ {items : List Value},
    (∀ id ∈ shownItems keep items, showObject₁ id = showObject₂ id) →
      viewItems showObject₁ keep items = viewItems showObject₂ keep items
  | [], _ => rfl
  | item :: rest, same => by
    rw [viewItems, viewItems, view_congr fun id id_mem ↦ same id (List.mem_append_left _ id_mem),
      viewItems_congr fun id id_mem ↦ same id (List.mem_append_right _ id_mem)]

theorem viewFields_congr : ∀ {fields : List (String × Value)},
    (∀ id ∈ shownFields keep fields, showObject₁ id = showObject₂ id) →
      viewFields showObject₁ keep fields = viewFields showObject₂ keep fields
  | [], _ => rfl
  | (name, value) :: rest, same => by
    by_cases h : keep name = true
    · rw [shownFields, if_pos h] at same
      rw [viewFields, viewFields, if_pos h, if_pos h,
        view_congr fun id id_mem ↦ same id (List.mem_append_left _ id_mem),
        viewFields_congr fun id id_mem ↦ same id (List.mem_append_right _ id_mem)]
    · rw [shownFields, if_neg h] at same
      rw [viewFields, viewFields, if_neg h, if_neg h, viewFields_congr same]

end

end Congruence

section Complete

variable (showObject : ObjectId → Written) (keep : String → Bool)

mutual

/-- A view is written to its end exactly if the texts of all shown objects are. -/
theorem complete_view : ∀ value : Value,
    (view showObject keep value).complete =
      (value.shown keep).all fun id ↦ (showObject id).complete
  | list items => by rw [view, complete_enclose, complete_viewItems items, shown]
  | map entries => by rw [view, complete_enclose, complete_viewFields entries, shown]
  | record typeName fields => by rw [view, complete_enclose, complete_viewFields fields, shown]
  | object id => (Bool.and_true _).symm
  | null | bool _ | int _ | float _ | text _ | bytes _ | timestamp _ => rfl

theorem complete_viewItems : ∀ items : List Value,
    (viewItems showObject keep items).all (·.complete) =
      (shownItems keep items).all fun id ↦ (showObject id).complete
  | [] => rfl
  | item :: rest => by
    rw [viewItems, shownItems, List.all_cons, List.all_append, complete_view item,
      complete_viewItems rest]

theorem complete_viewFields : ∀ fields : List (String × Value),
    (viewFields showObject keep fields).all (·.complete) =
      (shownFields keep fields).all fun id ↦ (showObject id).complete
  | [] => rfl
  | (name, value) :: rest => by
    by_cases h : keep name = true
    · rw [viewFields, shownFields, if_pos h, if_pos h, List.all_cons, List.all_append,
        Written.whole_append, complete_view value, complete_viewFields rest]
    · rw [viewFields, shownFields, if_neg h, if_neg h, complete_viewFields rest]

end

end Complete

end Value

end AuditTrail

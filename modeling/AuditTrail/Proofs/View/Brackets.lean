import Mathlib
import AuditTrail.Json.Printer
import AuditTrail.Proofs.View.Shown

/-!
# Telling texts apart by their brackets

Two texts with different numbers of opening brackets are different.  The number is easy to follow
through everything that puts texts together: it adds up over concatenation, neither the separator of
a view nor the escapes of a JSON string touch it, and so a view in which the objects show more
brackets has more brackets itself, however often each object is shown.
-/

namespace AuditTrail

/-- The number of opening brackets in a text. -/
def brackets (s : String) : Nat :=
  s.toList.count '['

@[simp] theorem brackets_append (s t : String) : brackets (s ++ t) = brackets s + brackets t := by
  rw [brackets, String.toList_append, List.count_append]
  rfl

/-- The separator of a view has no bracket. -/
theorem brackets_intercalate (texts : List String) :
    brackets (", ".intercalate texts) = (texts.map brackets).sum := by
  induction texts with
  | nil => rfl
  | cons s rest ih =>
    cases rest with
    | nil => rw [String.intercalate_singleton, List.map_cons, List.map_nil, List.sum_singleton]
    | cons t rest =>
      have separator : brackets ", " = 0 := by decide
      rw [String.intercalate_cons_cons, brackets_append, brackets_append, separator, ih,
        List.map_cons, List.sum_cons]
      rfl

/-- Neither escaping a character adds a bracket nor does it remove one. -/
theorem count_escapeChar (c : Char) : (Json.escapeChar c).count '[' = [c].count '[' := by
  unfold Json.escapeChar
  split
  iterate 7 rfl
  split
  next control =>
    have c_ne : c ≠ '[' := by
      rintro rfl
      exact absurd control (by decide)
    have digitChar_ne : ∀ n < 16, Nat.digitChar n ≠ '[' := by decide
    rw [List.count_eq_zero_of_not_mem, List.count_eq_zero_of_not_mem]
    · exact fun mem ↦ c_ne (List.mem_singleton.mp mem).symm
    · intro mem
      simp only [List.mem_cons, List.not_mem_nil, or_false] at mem
      rcases mem with eq | eq | eq | eq | eq | eq
      iterate 4 exact absurd eq (by decide)
      · exact digitChar_ne _ (by omega) eq.symm
      · exact digitChar_ne _ (Nat.mod_lt _ (by decide)) eq.symm
  · rfl

/-- A JSON string has the brackets of its text. -/
theorem count_stringChars (s : String) : (Json.stringChars s).count '[' = brackets s := by
  have count_chars (chars : List Char) :
      (chars.flatMap Json.escapeChar).count '[' = chars.count '[' := by
    induction chars with
    | nil => rfl
    | cons c rest ih =>
      rw [List.flatMap_cons, List.count_append, count_escapeChar, ih, ← List.count_append,
        List.singleton_append]
  rw [Json.stringChars, List.cons_append, List.count_cons_of_ne (by decide), List.count_append,
    count_chars]
  rfl

/-! ## Documents -/

namespace Json

/-- The separator of an array has no bracket. -/
theorem count_itemChars (items : List Json) :
    (itemChars items).count '[' = (items.map fun item ↦ (chars item).count '[').sum := by
  induction items with
  | nil => rfl
  | cons item rest ih =>
    cases rest with
    | nil => rw [itemChars, List.map_cons, List.map_nil, List.sum_singleton]
    | cons next rest =>
      rw [itemChars, List.count_append, List.count_cons_of_ne (by decide), ih]
      · rfl
      · exact List.cons_ne_nil next rest

/-- Neither the colon after a name nor the separator of an object is a bracket. -/
theorem count_memberChars (members : List (String × Json)) :
    (memberChars members).count '[' =
      (members.map fun member ↦ brackets member.1 + (chars member.2).count '[').sum := by
  induction members with
  | nil => rfl
  | cons member rest ih =>
    obtain ⟨name, value⟩ := member
    cases rest with
    | nil =>
      rw [memberChars, List.count_append, List.count_cons_of_ne (by decide), count_stringChars,
        List.map_cons, List.map_nil, List.sum_singleton]
    | cons next rest =>
      rw [memberChars, List.count_append, List.count_append, List.count_cons_of_ne (by decide),
        List.count_cons_of_ne (by decide), count_stringChars, ih]
      · rfl
      · exact List.cons_ne_nil next rest

theorem count_chars_arr (items : List Json) :
    (chars (arr items)).count '[' = (items.map fun item ↦ (chars item).count '[').sum + 1 := by
  rw [chars, List.cons_append, List.count_cons_self, List.count_append, count_itemChars]
  rfl

theorem count_chars_obj (members : List (String × Json)) :
    (chars (obj members)).count '[' =
      (members.map fun member ↦ brackets member.1 + (chars member.2).count '[').sum := by
  rw [chars, List.cons_append, List.count_cons_of_ne (by decide), List.count_append,
    count_memberChars]
  rfl

end Json

/-! ## Views -/

/-- A described text has the brackets of the type name and of its entries. -/
theorem Object.brackets_describedText (object : Object) (keep : String → Bool) :
    brackets (object.describedText keep) = brackets object.typeName +
      ((object.describe keep).map fun entry ↦ brackets entry.1 + brackets entry.2).sum := by
  have entry_eq (entry : String × String) :
      brackets (entry.1 ++ "=" ++ entry.2) = brackets entry.1 + brackets entry.2 := by
    rw [brackets_append, brackets_append]
    rfl
  rw [describedText, brackets_append, brackets_append, brackets_append, brackets_intercalate,
    List.map_map]
  simp only [Function.comp_def, entry_eq]
  rfl

namespace Value

theorem brackets_enclose {head close : String} {parts : List Written}
    (complete : ∀ part ∈ parts, part.complete = true) :
    brackets (enclose head parts close).text =
      brackets head + (parts.map fun part ↦ brackets part.text).sum + brackets close := by
  rw [text_enclose complete, brackets_append, brackets_append, brackets_intercalate, List.map_map]
  rfl

section View

variable (f g : ObjectId → String) (keep : String → Bool)

/-- The brackets that some shown objects have together. -/
def shownBrackets (f : ObjectId → String) (ids : List ObjectId) : Nat :=
  (ids.map fun id ↦ brackets (f id)).sum

theorem shownBrackets_append (ids more : List ObjectId) :
    shownBrackets f (ids ++ more) = shownBrackets f ids + shownBrackets f more := by
  rw [shownBrackets, List.map_append, List.sum_append]
  rfl

theorem complete_viewItems_whole (items : List Value) :
    ∀ part ∈ viewItems (fun id ↦ .whole (f id)) keep items, part.complete = true := by
  rw [← List.all_eq_true, complete_viewItems]
  exact List.all_eq_true.mpr fun _ _ ↦ rfl

theorem complete_viewFields_whole (fields : List (String × Value)) :
    ∀ part ∈ viewFields (fun id ↦ .whole (f id)) keep fields, part.complete = true := by
  rw [← List.all_eq_true, complete_viewFields]
  exact List.all_eq_true.mpr fun _ _ ↦ rfl

mutual

/-- Two views of a value differ in their brackets as the objects that they show do. -/
theorem brackets_view : ∀ value : Value,
    brackets (view (fun id ↦ .whole (f id)) keep value).text +
        shownBrackets g (value.shown keep) =
      brackets (view (fun id ↦ .whole (g id)) keep value).text +
        shownBrackets f (value.shown keep)
  | list items => by
    have items_eq := brackets_viewItems items
    rw [view, view, brackets_enclose (complete_viewItems_whole f keep items),
      brackets_enclose (complete_viewItems_whole g keep items), shown]
    omega
  | map entries => by
    have entries_eq := brackets_viewFields entries
    rw [view, view, brackets_enclose (complete_viewFields_whole f keep entries),
      brackets_enclose (complete_viewFields_whole g keep entries), shown]
    omega
  | record typeName fields => by
    have fields_eq := brackets_viewFields fields
    rw [view, view, brackets_enclose (complete_viewFields_whole f keep fields),
      brackets_enclose (complete_viewFields_whole g keep fields), shown]
    omega
  | object id => Nat.add_comm _ _
  | null | bool _ | int _ | float _ | text _ | bytes _ | timestamp _ => rfl

theorem brackets_viewItems : ∀ items : List Value,
    ((viewItems (fun id ↦ .whole (f id)) keep items).map fun part ↦ brackets part.text).sum +
        shownBrackets g (shownItems keep items) =
      ((viewItems (fun id ↦ .whole (g id)) keep items).map fun part ↦ brackets part.text).sum +
        shownBrackets f (shownItems keep items)
  | [] => rfl
  | item :: rest => by
    have item_eq := brackets_view item
    have rest_eq := brackets_viewItems rest
    rw [viewItems, viewItems, shownItems, List.map_cons, List.map_cons, List.sum_cons,
      List.sum_cons, shownBrackets_append, shownBrackets_append]
    omega

theorem brackets_viewFields : ∀ fields : List (String × Value),
    ((viewFields (fun id ↦ .whole (f id)) keep fields).map fun part ↦ brackets part.text).sum +
        shownBrackets g (shownFields keep fields) =
      ((viewFields (fun id ↦ .whole (g id)) keep fields).map fun part ↦ brackets part.text).sum +
        shownBrackets f (shownFields keep fields)
  | [] => rfl
  | (name, value) :: rest => by
    have value_eq := brackets_view value
    have rest_eq := brackets_viewFields rest
    by_cases h : keep name = true
    · simp only [viewFields, shownFields, if_pos h, List.map_cons, List.sum_cons,
        shownBrackets_append, Written.whole_append, brackets_append]
      omega
    · rw [viewFields, viewFields, shownFields, if_neg h, if_neg h, if_neg h]
      exact rest_eq

end

end View

end Value

end AuditTrail

import AuditTrail.Proofs.View.Fallback

/-!
# Templates of text views

The two text views of a value are one view that shows its objects in two ways.  What they have in
common is a template: the text of the value with a slot for each object that is shown.  A template
depends on the value and on the names that pass, and on no object, so that two views of a value can
differ only in what is put into its slots.

Filling a template is compatible with everything that a view does to texts, because texts that may
break off are a monoid: what stands in front of a failure is kept, and nothing follows it.  So the
failure of a single slot comes out of any depth, wherever the slot is.
-/

namespace AuditTrail

/-! ## Texts that may break off are a monoid -/

namespace Written

theorem append_assoc (a b c : Written) : a ++ b ++ c = a ++ (b ++ c) := by
  obtain ⟨s, _ | _⟩ := a
  · rfl
  · obtain ⟨t, _ | _⟩ := b
    · rfl
    · change Written.mk (s ++ t ++ c.text) c.complete = Written.mk (s ++ (t ++ c.text)) c.complete
      rw [String.append_assoc]

@[simp] theorem whole_empty_append (a : Written) : whole "" ++ a = a := by
  rw [whole_append, String.empty_append]

@[simp] theorem append_whole_empty (a : Written) : a ++ whole "" = a := by
  obtain ⟨s, _ | _⟩ := a
  · rfl
  · change Written.mk (s ++ "") true = ⟨s, true⟩
    rw [String.append_empty]

end Written

/-! ## Templates -/

/-- A part of a template. -/
inductive TemplatePart where
  | text (s : String)
  /-- The place of an object. -/
  | slot (id : ObjectId)
  deriving DecidableEq, Repr

/-- A text with slots for objects. -/
abbrev Template := List TemplatePart

namespace Template

/-- The objects of the slots, in order. -/
def slots : Template → List ObjectId
  | [] => []
  | .text _ :: rest => slots rest
  | .slot id :: rest => id :: slots rest

/-- The text of a template whose slots hold whole texts. -/
def filled (text : ObjectId → String) : Template → String
  | [] => ""
  | .text s :: rest => s ++ filled text rest
  | .slot id :: rest => text id ++ filled text rest

/-- The text of a template whose slots hold texts that may break off. -/
def fill (showObject : ObjectId → Written) : Template → Written
  | [] => .whole ""
  | .text s :: rest => .whole s ++ fill showObject rest
  | .slot id :: rest => showObject id ++ fill showObject rest

/-- Some templates with the separator of views between them. -/
def separated : List Template → Template
  | [] => []
  | [template] => template
  | template :: rest => template ++ .text ", " :: separated rest

section Fill

variable (showObject : ObjectId → Written)

theorem fill_append (template more : Template) :
    fill showObject (template ++ more) = fill showObject template ++ fill showObject more := by
  induction template with
  | nil => exact (Written.whole_empty_append _).symm
  | cons part rest ih =>
    cases part with
    | text s => rw [List.cons_append, fill, fill, ih, Written.append_assoc]
    | slot id => rw [List.cons_append, fill, fill, ih, Written.append_assoc]

theorem fill_text (s : String) : fill showObject [.text s] = .whole s :=
  Written.append_whole_empty _

/-- Filled templates are joined as texts are. -/
theorem fill_separated (templates : List Template) :
    fill showObject (separated templates) =
      Written.join ", " (templates.map (fill showObject)) := by
  induction templates with
  | nil => rfl
  | cons template rest ih =>
    cases rest with
    | nil => rfl
    | cons next rest =>
      rw [separated, fill_append, fill, ih]
      · exact (Written.append_assoc _ _ _).symm
      · exact List.cons_ne_nil next rest

/-- Slots with whole texts are filled with these texts. -/
theorem fill_whole (text : ObjectId → String) (template : Template) :
    fill (fun id ↦ .whole (text id)) template = .whole (template.filled text) := by
  induction template with
  | nil => rfl
  | cons part rest ih =>
    cases part with
    | text s => rw [fill, ih, filled, Written.whole_append, Written.whole, Written.whole]
    | slot id => rw [fill, ih, filled, Written.whole_append, Written.whole, Written.whole]

end Fill

theorem slots_append (template more : Template) :
    slots (template ++ more) = slots template ++ slots more := by
  induction template with
  | nil => rfl
  | cons part rest ih =>
    cases part with
    | text s => exact ih
    | slot id => exact congrArg (id :: ·) ih

theorem slots_separated (templates : List Template) :
    slots (separated templates) = templates.flatMap slots := by
  induction templates with
  | nil => rfl
  | cons template rest ih =>
    cases rest with
    | nil => exact (List.append_nil _).symm
    | cons next rest =>
      rw [separated, slots_append, slots, ih]
      · exact List.flatMap_cons.symm
      · exact List.cons_ne_nil next rest

end Template

namespace Value

mutual

/-- The template of a value, in which the names that do not pass are left out. -/
def template (keep : String → Bool) : Value → Template
  | list items => .text "[" :: Template.separated (itemTemplates keep items) ++ [.text "]"]
  | map entries =>
    .text "\x7b" :: Template.separated (fieldTemplates keep entries) ++ [.text "\x7d"]
  | record typeName fields =>
    .text (typeName ++ "\x7b") :: Template.separated (fieldTemplates keep fields) ++
      [.text "\x7d"]
  | object id => [.slot id]
  | value => [.text value.scalarText]

/-- The templates of some values. -/
def itemTemplates (keep : String → Bool) : List Value → List Template
  | [] => []
  | item :: rest => template keep item :: itemTemplates keep rest

/-- The templates of the fields whose names pass, each with its name. -/
def fieldTemplates (keep : String → Bool) : List (String × Value) → List Template
  | [] => []
  | (name, value) :: rest =>
    if keep name then
      (.text (name ++ "=") :: template keep value) :: fieldTemplates keep rest
    else fieldTemplates keep rest

end

/-! ## Views are filled templates -/

section View

variable (showObject : ObjectId → Written) (keep : String → Bool)

/-- An enclosed text is the filled template that encloses the parts. -/
theorem fill_enclosed (head close : String) (templates : List Template) :
    Template.fill showObject (.text head :: Template.separated templates ++ [.text close]) =
      enclose head (templates.map (Template.fill showObject)) close := by
  rw [List.cons_append, Template.fill, Template.fill_append, Template.fill_separated,
    Template.fill_text, enclose, Written.append_assoc]

mutual

/-- A view is the template of the value, filled with the texts of the objects. -/
theorem view_eq_fill : ∀ value : Value,
    view showObject keep value = (value.template keep).fill showObject
  | list items => by rw [view, template, fill_enclosed, viewItems_eq_fill items]
  | map entries => by rw [view, template, fill_enclosed, viewFields_eq_fill entries]
  | record typeName fields => by rw [view, template, fill_enclosed, viewFields_eq_fill fields]
  | object id => (Written.append_whole_empty (showObject id)).symm
  | null | bool _ | int _ | float _ | text _ | bytes _ | timestamp _ =>
    (Template.fill_text showObject _).symm

theorem viewItems_eq_fill : ∀ items : List Value,
    viewItems showObject keep items = (itemTemplates keep items).map (Template.fill showObject)
  | [] => rfl
  | item :: rest => by
    rw [viewItems, itemTemplates, List.map_cons, view_eq_fill item, viewItems_eq_fill rest]

theorem viewFields_eq_fill : ∀ fields : List (String × Value),
    viewFields showObject keep fields = (fieldTemplates keep fields).map (Template.fill showObject)
  | [] => rfl
  | (name, value) :: rest => by
    by_cases h : keep name = true
    · rw [viewFields, fieldTemplates, if_pos h, if_pos h, List.map_cons, Template.fill,
        view_eq_fill value, viewFields_eq_fill rest]
    · rw [viewFields, fieldTemplates, if_neg h, if_neg h, viewFields_eq_fill rest]

end

end View

/-! ## Objects that are reached -/

/-- A view reaches an object through items, and through entries and fields whose names pass. -/
inductive Shows (keep : String → Bool) : Value → ObjectId → Prop
  | object (id : ObjectId) : Shows keep (.object id) id
  | item {items : List Value} {value : Value} {id : ObjectId} : value ∈ items →
      Shows keep value id → Shows keep (.list items) id
  | entry {entries : Fields} {name : String} {value : Value} {id : ObjectId} :
      (name, value) ∈ entries → keep name = true → Shows keep value id →
      Shows keep (.map entries) id
  | field {typeName : String} {fields : Fields} {name : String} {value : Value} {id : ObjectId} :
      (name, value) ∈ fields → keep name = true → Shows keep value id →
      Shows keep (.record typeName fields) id

section Slots

variable (keep : String → Bool)

theorem slots_enclosed (head close : String) (templates : List Template) :
    Template.slots (.text head :: Template.separated templates ++ [.text close]) =
      templates.flatMap Template.slots := by
  rw [List.cons_append, Template.slots, Template.slots_append, Template.slots_separated]
  exact List.append_nil _

mutual

/-- A template has a slot for each object that a view meets, in the same order. -/
theorem slots_template : ∀ value : Value, (value.template keep).slots = value.shown keep
  | list items => by rw [template, slots_enclosed, slots_itemTemplates items, shown]
  | map entries => by rw [template, slots_enclosed, slots_fieldTemplates entries, shown]
  | record typeName fields => by rw [template, slots_enclosed, slots_fieldTemplates fields, shown]
  | object _ | null | bool _ | int _ | float _ | text _ | bytes _ | timestamp _ => rfl

theorem slots_itemTemplates : ∀ items : List Value,
    (itemTemplates keep items).flatMap Template.slots = shownItems keep items
  | [] => rfl
  | item :: rest => by
    rw [itemTemplates, List.flatMap_cons, slots_template item, slots_itemTemplates rest, shownItems]

theorem slots_fieldTemplates : ∀ fields : List (String × Value),
    (fieldTemplates keep fields).flatMap Template.slots = shownFields keep fields
  | [] => rfl
  | (name, value) :: rest => by
    by_cases h : keep name = true
    · rw [fieldTemplates, shownFields, if_pos h, if_pos h, List.flatMap_cons, Template.slots,
        slots_template value, slots_fieldTemplates rest]
    · rw [fieldTemplates, shownFields, if_neg h, if_neg h, slots_fieldTemplates rest]

end

end Slots

section Shown

variable {keep : String → Bool} {id : ObjectId}

mutual

/-- The objects that a view meets are reached. -/
theorem shows_of_mem_shown : ∀ {value : Value}, id ∈ value.shown keep → value.Shows keep id
  | list items, mem => by
    obtain ⟨item, item_mem, shows⟩ := exists_item_of_mem_shown mem
    exact .item item_mem shows
  | map entries, mem => by
    obtain ⟨entry, entry_mem, kept, shows⟩ := exists_field_of_mem_shown mem
    exact .entry entry_mem kept shows
  | record typeName fields, mem => by
    obtain ⟨field, field_mem, kept, shows⟩ := exists_field_of_mem_shown mem
    exact .field field_mem kept shows
  | object other, mem => by
    obtain rfl := List.mem_singleton.mp mem
    exact .object id

theorem exists_item_of_mem_shown : ∀ {items : List Value}, id ∈ shownItems keep items →
    ∃ item ∈ items, item.Shows keep id
  | item :: rest, mem => by
    rw [shownItems, List.mem_append] at mem
    rcases mem with item_mem | rest_mem
    · exact ⟨item, List.mem_cons_self, shows_of_mem_shown item_mem⟩
    · obtain ⟨other, other_mem, shows⟩ := exists_item_of_mem_shown rest_mem
      exact ⟨other, List.mem_cons_of_mem item other_mem, shows⟩

theorem exists_field_of_mem_shown : ∀ {fields : List (String × Value)},
    id ∈ shownFields keep fields → ∃ field ∈ fields, keep field.1 = true ∧ field.2.Shows keep id
  | (name, value) :: rest, mem => by
    rw [shownFields] at mem
    by_cases kept : keep name = true
    · rw [if_pos kept, List.mem_append] at mem
      rcases mem with value_mem | rest_mem
      · exact ⟨(name, value), List.mem_cons_self, kept, shows_of_mem_shown value_mem⟩
      · obtain ⟨other, other_mem, shows⟩ := exists_field_of_mem_shown rest_mem
        exact ⟨other, List.mem_cons_of_mem _ other_mem, shows⟩
    · rw [if_neg kept] at mem
      obtain ⟨other, other_mem, shows⟩ := exists_field_of_mem_shown mem
      exact ⟨other, List.mem_cons_of_mem _ other_mem, shows⟩

end

theorem mem_shownItems {items : List Value} {item : Value} (item_mem : item ∈ items)
    (id_mem : id ∈ item.shown keep) : id ∈ shownItems keep items := by
  induction items with
  | nil => cases item_mem
  | cons first rest ih =>
    rw [shownItems, List.mem_append]
    rcases List.mem_cons.mp item_mem with rfl | rest_mem
    · exact .inl id_mem
    · exact .inr (ih rest_mem)

theorem mem_shownFields {fields : Fields} {name : String} {value : Value}
    (field_mem : (name, value) ∈ fields) (kept : keep name = true)
    (id_mem : id ∈ value.shown keep) : id ∈ shownFields keep fields := by
  induction fields with
  | nil => cases field_mem
  | cons first rest ih =>
    obtain ⟨firstName, firstValue⟩ := first
    rw [shownFields]
    rcases List.mem_cons.mp field_mem with first_eq | rest_mem
    · cases first_eq
      rw [if_pos kept]
      exact List.mem_append_left _ id_mem
    · split
      · exact List.mem_append_right _ (ih rest_mem)
      · exact ih rest_mem

/-- The objects that are reached are those that a view meets. -/
theorem mem_shown_iff {value : Value} : id ∈ value.shown keep ↔ value.Shows keep id := by
  constructor
  · exact shows_of_mem_shown
  · intro shows
    induction shows with
    | object id => exact List.mem_cons_self
    | item item_mem _ ih => exact mem_shownItems item_mem ih
    | entry entry_mem kept _ ih => exact mem_shownFields entry_mem kept ih
    | field field_mem kept _ ih => exact mem_shownFields field_mem kept ih

end Shown

/-! ## Hooks -/

/-- Some object that the view reaches has a hook that breaks off. -/
def BreaksOff (objects : ObjectTable) (keep : String → Bool) (value : Value) : Prop :=
  ∃ id s, value.Shows keep id ∧ (objects id).hook = some (.breaksOff s)

end Value

/-- What stands for an object in a text with hooks: what its hook writes, or its description if it
has none. -/
def Object.hookedText (object : Object) (keep : String → Bool) : String :=
  (object.hook.map TextHook.text).getD (object.describedText keep)

/-- The own text of an object breaks off exactly if its hook does. -/
theorem Object.ownText_eq (object : Object) (keep : String → Bool) :
    object.ownText keep = ⟨object.hookedText keep, object.hook.all TextHook.succeeds⟩ := by
  rw [ownText, hookedText]
  rcases object.hook with _ | _ | _ <;> rfl

namespace Value

variable {objects : ObjectTable} {keep : String → Bool} {value : Value}

/-- The text with descriptions is the template filled with them. -/
theorem describedText_eq_filled :
    value.describedText objects keep =
      (value.template keep).filled fun id ↦ (objects id).describedText keep := by
  rw [describedText, view_eq_fill, Template.fill_whole]
  rfl

/-- The text with hooks breaks off exactly if a hook does. -/
theorem complete_written_eq_false_iff :
    (value.written objects keep).complete = false ↔ value.BreaksOff objects keep := by
  rw [written, complete_view, List.all_eq_false]
  constructor
  · rintro ⟨id, id_mem, incomplete⟩
    rw [Object.ownText_eq] at incomplete
    cases hook_eq : (objects id).hook with
    | none => exact absurd (by rw [hook_eq]; rfl) incomplete
    | some hook =>
      cases hook with
      | writes s => exact absurd (by rw [hook_eq]; rfl) incomplete
      | breaksOff s => exact ⟨id, s, mem_shown_iff.mp id_mem, hook_eq⟩
  · rintro ⟨id, s, shows, hook_eq⟩
    refine ⟨id, mem_shown_iff.mpr shows, ?_⟩
    rw [Object.ownText_eq, hook_eq]
    exact Bool.false_ne_true

/-- A text with hooks that does not break off is the template filled with what the hooks write, and
with the descriptions of objects without a hook. -/
theorem written_eq_filled (unbroken : ¬ value.BreaksOff objects keep) :
    value.written objects keep =
      .whole ((value.template keep).filled fun id ↦ (objects id).hookedText keep) := by
  rw [← Template.fill_whole, ← view_eq_fill, written]
  refine view_congr fun id id_mem ↦ ?_
  rw [Object.ownText_eq, Written.whole]
  cases hook_eq : (objects id).hook with
  | none => rfl
  | some hook =>
    cases hook with
    | writes s => rfl
    | breaksOff s => exact absurd ⟨id, s, mem_shown_iff.mp id_mem, hook_eq⟩ unbroken

/-- Where no shown object has a hook, the two texts are the same. -/
theorem written_eq_describedText (hookless : ∀ id, value.Shows keep id → (objects id).hook = none) :
    value.written objects keep = .whole (value.describedText objects keep) := by
  rw [describedText_eq_filled, ← Template.fill_whole, ← view_eq_fill, written]
  refine view_congr fun id id_mem ↦ ?_
  rw [Object.ownText, hookless id (mem_shown_iff.mp id_mem)]

end Value

/-! ## Containers -/

namespace RenderSettings

/-- **Custom texts of containers.**  A container has a template, with a slot for each object that is
reached through names that pass.  Its description is the template filled with the descriptions of
the objects.  Its custom text breaks off, and the tier fails, exactly if an object with a slot has a
hook that breaks off; otherwise the custom text is the same template, in which what a hook writes
stands in place of the description of its object.  In particular the two texts of any value are the
same if no object that is reached has a hook. -/
theorem customText_fills_template {data : AuditData} (container : data.IsContainer) :
    (∀ (keep : String → Bool) (objects : ObjectTable),
      let template := data.toValue.template keep
      let breaksOff := data.toValue.BreaksOff objects keep
      let text := template.filled fun id ↦ (objects id).hookedText keep
      (∀ id, id ∈ template.slots ↔ data.toValue.Shows keep id) ∧
        data.toValue.describedText objects keep =
          template.filled (fun id ↦ (objects id).describedText keep) ∧
        (breaksOff ↔ ∃ s, data.ownText objects keep = some (.broken s)) ∧
        (¬ breaksOff → data.ownText objects keep = some (.whole text)) ∧
        ∀ settings : RenderSettings, settings.filter.includes = keep →
          (breaksOff ↔ ∃ error, settings.customText objects data = .error error) ∧
          (¬ breaksOff → settings.customText objects data = .ok text)) ∧
    ∀ (keep : String → Bool) (objects : ObjectTable) (value : Value),
      (∀ id, value.Shows keep id → (objects id).hook = none) →
      value.written objects keep = .whole (value.describedText objects keep) := by
  refine ⟨?_, fun keep objects value ↦ Value.written_eq_describedText⟩
  intro keep objects template breaksOff text
  obtain ⟨-, -, -, ownText_eq, -⟩ := container.exists_fields
  have incomplete_iff : (data.toValue.written objects keep).complete = false ↔ breaksOff :=
    Value.complete_written_eq_false_iff
  have whole (unbroken : ¬ breaksOff) : data.toValue.written objects keep = .whole text :=
    Value.written_eq_filled unbroken
  refine ⟨fun id ↦ ?_, Value.describedText_eq_filled, ?_, ?_, ?_⟩
  · rw [Value.slots_template]
    exact Value.mem_shown_iff
  · rw [ownText_eq, ← incomplete_iff]
    constructor
    · intro incomplete
      refine ⟨(data.toValue.written objects keep).text, ?_⟩
      rw [Written.broken, ← incomplete]
    · rintro ⟨s, written_eq⟩
      exact congrArg Written.complete (Option.some.inj written_eq)
  · intro unbroken
    rw [ownText_eq, whole unbroken]
  · rintro settings rfl
    have customText_eq := @customText_of_isContainer settings data container objects
    refine ⟨?_, fun unbroken ↦ ?_⟩
    · rw [← incomplete_iff, customText_eq]
      cases (data.toValue.written objects settings.filter.includes).complete with
      | true => simp
      | false => simp
    · rw [customText_eq, whole unbroken]
      rfl

/-! A request shows an object whose hook writes a text, and a record with an object without a hook.
The hook of a third object breaks off, but it is under an excluded name. -/

/-- The objects of the request. -/
def hookedObjects : ObjectTable
  | ⟨0⟩ => ⟨"Proxy", .ok [], some (.writes "<proxy>"), [("kind", "proxy")]⟩
  | ⟨1⟩ => ⟨"Log", .ok [], some (.breaksOff "<lo"), []⟩
  | _ => ⟨"User", .ok [], none, [("id", "1"), ("logger", "l")]⟩

/-- The request. -/
def hookedRequest : AuditData :=
  .request
    { parts := [.object ⟨0⟩, .record "Ctx" [("logger", .object ⟨1⟩), ("user", .object ⟨2⟩)]]
      method := none
      uri := none
      headers := []
      attachments := [] }

/-- The custom text of the request has the text of the hook in place of a description. -/
theorem customText_hookedRequest :
    hookedRequest.IsContainer ∧
      hookedRequest.toValue.describedText hookedObjects FieldFilter.standard.includes =
        "RequestAuditData\x7brequest=[Proxy\x7bkind=proxy\x7d, " ++
          "Ctx\x7buser=User\x7bid=1\x7d\x7d], headers=\x7b\x7d\x7d" ∧
      customText {} hookedObjects hookedRequest =
        .ok ("RequestAuditData\x7brequest=[<proxy>, " ++
          "Ctx\x7buser=User\x7bid=1\x7d\x7d], headers=\x7b\x7d\x7d") := by
  have container : hookedRequest.IsContainer := trivial
  have slots_eq :
      (hookedRequest.toValue.template FieldFilter.standard.includes).slots = [⟨0⟩, ⟨2⟩] := by
    decide +kernel
  obtain ⟨slots_iff, described_eq, -, -, tier⟩ :=
    (customText_fills_template container).1 FieldFilter.standard.includes hookedObjects
  have unbroken :
      ¬ hookedRequest.toValue.BreaksOff hookedObjects FieldFilter.standard.includes := by
    rintro ⟨id, s, shows, hook_eq⟩
    have id_mem : id ∈ [⟨0⟩, ⟨2⟩] := slots_eq ▸ (slots_iff id).mpr shows
    rcases List.mem_cons.mp id_mem with rfl | id_mem
    · cases hook_eq
    · obtain rfl := List.mem_singleton.mp id_mem
      cases hook_eq
  refine ⟨container, ?_, ?_⟩
  · rw [described_eq]
    decide +kernel
  · rw [(tier {} rfl).2 unbroken]
    decide +kernel

end RenderSettings

end AuditTrail

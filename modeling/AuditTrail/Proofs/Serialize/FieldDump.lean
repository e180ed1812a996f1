import AuditTrail.Proofs.Serialize.Structured
import AuditTrail.Proofs.View.Fallback

/-!
# The dump of a description

The last tier has no document to print.  It writes an opening brace, then one described entry after
another, each name and each text with quotes of its own and with a comma before it unless it is the
first, and a closing brace.  That the result is the text of a document, whatever the names and the
texts are, is an invariant of this loop: what it has written so far is the document of the entries
so far without its closing brace.

The dump drops names after the values have become texts, and the document of the first tier drops
them before it looks at a value.  Both go over the fields of a container in the same order and ask
for the names alone, so that they keep the same ones.
-/

namespace AuditTrail

/-! ## Entries as members -/

namespace Json

/-- The members that some entries are: a text under each name. -/
def textMembers (entries : List (String × String)) : List (String × Json) :=
  entries.map fun entry ↦ (entry.1, .str entry.2)

theorem textMembers_append (entries more : List (String × String)) :
    textMembers (entries ++ more) = textMembers entries ++ textMembers more :=
  List.map_append

/-- Texts are read back whatever they are. -/
theorem membersAreReadable_textMembers (entries : List (String × String)) :
    MembersAreReadable (textMembers entries) := by
  induction entries with
  | nil => exact trivial
  | cons entry rest ih => exact ⟨trivial, ih⟩

/-- What a further member adds: itself, and a comma before it unless it is the first. -/
theorem memberChars_append_singleton (members : List (String × Json)) (name : String)
    (value : Json) :
    memberChars (members ++ [(name, value)]) =
      memberChars members ++ ((if 0 < members.length then [','] else []) ++
        (stringChars name ++ ':' :: chars value)) := by
  induction members with
  | nil => exact memberChars_singleton name value
  | cons member rest ih =>
    obtain ⟨firstName, firstValue⟩ := member
    rw [List.length_cons, if_pos (Nat.succ_pos rest.length)]
    cases rest with
    | nil =>
      rw [List.singleton_append, memberChars_cons, memberChars_singleton, memberChars_singleton]
      simp only [List.append_assoc, List.cons_append, List.nil_append]
    | cons next rest =>
      rw [List.length_cons, if_pos (Nat.succ_pos rest.length), List.cons_append] at ih
      rw [List.cons_append, List.cons_append, memberChars_cons, ih, memberChars_cons]
      simp only [List.append_assoc, List.cons_append, List.nil_append]

theorem toList_render (j : Json) : j.render.toList = chars j :=
  String.toList_ofList

end Json

/-! ## The loop of the dump -/

/-- Writes a further entry, which is the first one if its number is zero. -/
def appendEntry (out : String) : (String × String) × Nat → String
  | ((name, text), i) =>
    (if 0 < i then out ++ "," else out) ++ (Json.str name).render ++ ":" ++ (Json.str text).render

/-- The text of some entries as a loop over them writes it. -/
def dumpText (entries : List (String × String)) : String :=
  entries.zipIdx.foldl appendEntry "\x7b" ++ "\x7d"

/-- The text is the document of the entries without its closing brace. -/
def IsUnclosed (entries : List (String × String)) (out : String) : Prop :=
  out.toList = '\x7b' :: Json.memberChars (Json.textMembers entries)

/-- A further entry makes the text of one entry more. -/
theorem IsUnclosed.appendEntry {entries : List (String × String)} {out : String}
    (unclosed : IsUnclosed entries out) (entry : String × String) :
    IsUnclosed (entries ++ [entry]) (appendEntry out (entry, entries.length)) := by
  obtain ⟨name, text⟩ := entry
  have length_eq : (Json.textMembers entries).length = entries.length := List.length_map _
  have comma_eq : (if 0 < entries.length then out ++ "," else out).toList =
      out.toList ++ (if 0 < entries.length then [','] else []) := by
    split
    · exact String.toList_append
    · exact (List.append_nil _).symm
  rw [IsUnclosed] at unclosed
  rw [IsUnclosed, AuditTrail.appendEntry, Json.textMembers_append]
  change _ = '\x7b' :: Json.memberChars (Json.textMembers entries ++ [(name, .str text)])
  rw [Json.memberChars_append_singleton, length_eq, String.toList_append, String.toList_append,
    String.toList_append, comma_eq, unclosed, Json.toList_render, Json.toList_render]
  simp only [List.append_assoc, List.cons_append]
  rfl

/-- The loop keeps this up to its last entry. -/
theorem IsUnclosed.foldl {entries : List (String × String)} {out : String}
    (unclosed : IsUnclosed entries out) (more : List (String × String)) :
    IsUnclosed (entries ++ more)
      ((more.zipIdx entries.length).foldl AuditTrail.appendEntry out) := by
  induction more generalizing entries out with
  | nil =>
    rw [List.append_nil]
    exact unclosed
  | cons entry rest ih =>
    have rest_unclosed := ih (unclosed.appendEntry entry)
    rw [List.append_assoc, List.length_append] at rest_unclosed
    exact rest_unclosed

/-- The loop writes the document of the entries. -/
theorem dumpText_eq_render (entries : List (String × String)) :
    dumpText entries = (Json.obj (Json.textMembers entries)).render := by
  have unclosed : IsUnclosed entries (entries.zipIdx.foldl appendEntry "\x7b") :=
    (show IsUnclosed [] "\x7b" from rfl).foldl entries
  rw [IsUnclosed] at unclosed
  refine String.toList_inj.mp ?_
  rw [dumpText, String.toList_append, unclosed, Json.toList_render, Json.chars]
  rfl

/-! ## Excluded names -/

namespace Entries

variable {α : Type}

theorem mem_keys_insert {key other : String} {value : α} {entries : Entries α} :
    other ∈ (entries.insert key value).map (·.1) ↔ other = key ∨ other ∈ entries.map (·.1) := by
  induction entries with
  | nil => exact List.mem_cons
  | cons entry rest ih =>
    obtain ⟨k, v⟩ := entry
    rw [insert]
    split
    · exact List.mem_cons
    · split
      next _ key_eq =>
        subst key_eq
        rw [List.map_cons, List.map_cons, List.mem_cons, or_self_left]
      next =>
        rw [List.map_cons, List.mem_cons, ih, List.map_cons, List.mem_cons, or_left_comm]

/-- The keys of a map are those of the entries that it is made from. -/
theorem mem_keys_ofList {other : String} {entries : List (String × α)} :
    other ∈ (ofList entries).map (·.1) ↔ other ∈ entries.map (·.1) := by
  suffices mem_iff : ∀ map : Entries α,
      other ∈ (entries.foldl (fun map entry ↦ map.insert entry.1 entry.2) map).map (·.1) ↔
        other ∈ map.map (·.1) ∨ other ∈ entries.map (·.1) from
    (mem_iff []).trans (or_iff_right List.not_mem_nil)
  induction entries with
  | nil => exact fun map ↦ (or_iff_left List.not_mem_nil).symm
  | cons entry rest ih =>
    intro map
    rw [List.foldl_cons, ih, mem_keys_insert, List.map_cons, List.mem_cons, or_assoc, or_left_comm]

end Entries

/-- The filter of a list of names lets a name pass unless the list has it in some case. -/
theorem FieldFilter.includes_ofNames {names : List String} {name : String} :
    (ofNames names).includes name = true ↔
      ∀ excluded ∈ names, Text.lowercase excluded ≠ Text.lowercase name := by
  rw [includes, Bool.not_eq_true', List.contains_eq_mem, decide_eq_false_iff_not, ofNames,
    Entries.mem_keys_ofList, List.map_map, List.mem_map]
  constructor
  · exact fun passes excluded excluded_mem lowercase_eq ↦
      passes ⟨excluded, excluded_mem, lowercase_eq⟩
  · rintro differ ⟨excluded, excluded_mem, lowercase_eq⟩
    exact differ excluded excluded_mem lowercase_eq

/-! ## The dump -/

namespace RenderSettings

variable {settings : RenderSettings} {objects : ObjectTable}

/-- The members that represent some fields have the names that pass. -/
theorem names_of_fieldsRepresentedBy {depth : Nat} {path : List ObjectId} :
    ∀ {fields members}, settings.FieldsRepresentedBy objects depth path fields members →
      members.map (·.1) = (fields.keeping settings.filter.includes).map (·.1)
  | _, _, .nil => rfl
  | _, _, .excluded excluded rest_by => by
    rw [Fields.keeping_cons_of_excluded excluded]
    exact names_of_fieldsRepresentedBy rest_by
  | _, _, .included included _ rest_by => by
    rw [Fields.keeping_cons_of_kept included, List.map_cons, List.map_cons]
    exact congrArg _ (names_of_fieldsRepresentedBy rest_by)

/-- A record does not lie too deep in itself, so that its document has members for its fields. -/
theorem exists_members_of_record {typeName : String} {fields : Fields} {text : String}
    (text_eq : settings.structuredText? objects (.record typeName fields) = some (.ok text)) :
    ∃ members, text = (Json.obj members).render ∧
      settings.FieldsRepresentedBy objects 1 [] fields members := by
  obtain ⟨document, document_eq, rfl⟩ := structuredText?_eq_ok.mp text_eq
  cases representedBy_iff_document.mpr document_eq with
  | tooDeep too_deep => exact absurd too_deep (Nat.not_lt_zero _)
  | node _ node_by =>
    cases node_by with
    | record fields_by => exact ⟨_, rfl, fields_by⟩

/-- **The dump is a document of the description.**  The text of the last tier is what a loop over
the described entries writes, and it is read as a document with these entries as its members, in
order and with those that share a name.  The entries of a custom object are those of its own
description whose names pass.  The entries of a container are its fields whose names pass, each with
the text that describes its value; and if the first tier has a text for the container, then this is
a document whose members have the same names as the entries.  A name passes unless it has been
excluded, in whatever case. -/
theorem fieldDump_is_document (settings : RenderSettings) (objects : ObjectTable)
    (data : AuditData) :
    let keep := settings.filter.includes
    let entries := data.describe objects keep
    settings.fieldDump objects data = dumpText entries ∧
      Json.parse? (settings.fieldDump objects data) = some (.obj (Json.textMembers entries)) ∧
      (∀ id, data = .custom id → entries = (objects id).description.filter fun e ↦ keep e.1) ∧
      (data.IsContainer → ∃ typeName fields, data.toValue = .record typeName fields ∧
        entries = (fields.filter fun field ↦ keep field.1).map
          (fun field ↦ (field.1, field.2.describedText objects keep)) ∧
        ∀ text, settings.structuredText? objects data.toValue = some (.ok text) →
          ∃ members, text = (Json.obj members).render ∧
            members.map (·.1) = entries.map (·.1) ∧
            (data.toValue.IntsFit → objects.IntsFit → Json.parse? text = some (.obj members))) ∧
      ∀ names, settings.filter = .ofNames names → ∀ name, keep name = true ↔
        ∀ excluded ∈ names, Text.lowercase excluded ≠ Text.lowercase name := by
  intro keep entries
  refine ⟨(dumpText_eq_render entries).symm, ?_, ?_, ?_, ?_⟩
  · exact Json.parse?_render (Json.membersAreReadable_textMembers entries)
  · rintro id rfl
    rfl
  · intro container
    obtain ⟨typeName, fields, toValue_eq, -, describe_eq⟩ := container.exists_fields
    have entries_eq : entries = AuditData.describeFields objects keep fields :=
      describe_eq objects keep
    refine ⟨typeName, fields, toValue_eq, entries_eq, fun text text_eq ↦ ?_⟩
    rw [toValue_eq] at text_eq
    obtain ⟨members, render_eq, fields_by⟩ := exists_members_of_record text_eq
    refine ⟨members, render_eq, ?_, fun fits objects_fit ↦ ?_⟩
    · rw [names_of_fieldsRepresentedBy fields_by, entries_eq, AuditData.describeFields,
        List.map_map]
      rfl
    · rw [toValue_eq] at fits
      rw [render_eq]
      exact Json.parse?_render (membersAreReadable_of_representedBy objects_fit fields_by fits)
  · rintro names filter_eq name
    rw [← FieldFilter.includes_ofNames, ← filter_eq]

/-- A note that describes itself by an excluded name and by two entries of the same name. -/
def noteObjects : ObjectTable := fun _ ↦
  { typeName := "Note"
    fields := .ok [("text", .text "hi"), ("Logger", .text "console")]
    hook := none
    description := [("Logger", "console"), ("note", "say \"hi\""), ("note", "again")] }

/-- A request with the note. -/
def noteRequest : AuditData :=
  .request
    { parts := [.object ⟨0⟩]
      method := some "GET"
      uri := none
      headers := []
      attachments := [] }

/-- The dump of the note has both entries of one name, and the dump of the request has the names of
its document. -/
theorem fieldDump_note :
    Json.parse? (({} : RenderSettings).fieldDump noteObjects (.custom ⟨0⟩)) =
        some (.obj [("note", .str "say \"hi\""), ("note", .str "again")]) ∧
      Json.parse? (({} : RenderSettings).fieldDump noteObjects noteRequest) =
        some (.obj [("request", .str "[Note\x7bnote=say \"hi\", note=again\x7d]"),
          ("method", .str "GET"), ("headers", .str "\x7b\x7d")]) ∧
      ∃ text, ({} : RenderSettings).structuredText? noteObjects noteRequest.toValue =
          some (.ok text) ∧
        ∃ members, Json.parse? text = some (.obj members) ∧
          members.map (·.1) = ["request", "method", "headers"] := by
  have note_entries : (AuditData.custom ⟨0⟩).describe noteObjects FieldFilter.standard.includes =
      [("note", "say \"hi\""), ("note", "again")] := by decide +kernel
  have request_entries : noteRequest.describe noteObjects FieldFilter.standard.includes =
      [("request", "[Note\x7bnote=say \"hi\", note=again\x7d]"), ("method", "GET"),
        ("headers", "\x7b\x7d")] := by decide +kernel
  have text_eq : ({} : RenderSettings).structuredText? noteObjects noteRequest.toValue =
      some (.ok ("\x7b\"request\":[\x7b\"text\":\"hi\"\x7d],\"method\":\"GET\"," ++
        "\"headers\":\x7b\x7d\x7d")) := by decide +kernel
  have fits : noteRequest.toValue.IntsFit := ⟨⟨trivial, trivial⟩, trivial, trivial, trivial⟩
  have objects_fit : noteObjects.IntsFit := by
    rintro id _ ⟨⟩
    exact ⟨trivial, trivial, trivial⟩
  obtain ⟨-, note_parse, -, -, -⟩ := fieldDump_is_document {} noteObjects (.custom ⟨0⟩)
  obtain ⟨-, request_parse, -, of_container, -⟩ := fieldDump_is_document {} noteObjects noteRequest
  obtain ⟨typeName, fields, -, -, tier⟩ := of_container trivial
  obtain ⟨members, -, names_eq, members_parse⟩ := tier _ text_eq
  refine ⟨?_, ?_, _, text_eq, members, members_parse fits objects_fit, ?_⟩
  · rw [note_parse, note_entries]
    rfl
  · rw [request_parse, request_entries]
    rfl
  · rw [names_eq, request_entries]
    rfl

end RenderSettings

end AuditTrail

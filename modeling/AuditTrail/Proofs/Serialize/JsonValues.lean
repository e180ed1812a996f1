import AuditTrail.Proofs.Serialize.Structured
import AuditTrail.Value.OfJson

/-!
# The text of a value that was a document

A JSON document that becomes a value is written as a document again by the first tier.  If no name
of it is excluded and it does not lie deeper than the settings allow, then nothing is left out, and
as its members are in the order of their names, they stay in order.

The numbers are another matter.  An integer that 64 signed bits do not hold becomes the nearest
float, and is written as one.  So the text is that of the document with such integers rounded, and
it is the text of the document itself exactly if there is none (`structuredText_ofJson`).  Nothing
is assumed of strings, of the nesting or of floats, except that they are finite.
-/

namespace AuditTrail

/-! ## Entries that are in order -/

namespace Entries

variable {α : Type}

/-- The keys of entries ascend, so that no key is there twice. -/
def IsAscending (entries : List (String × α)) : Prop :=
  (entries.map (·.1)).Pairwise (· < ·)

instance (entries : List (String × α)) : Decidable (IsAscending entries) :=
  inferInstanceAs (Decidable ((entries.map (·.1)).Pairwise (· < ·)))

/-- An entry whose key is the greatest comes last. -/
theorem insert_of_forall_lt {key : String} {entries : Entries α}
    (below : ∀ k ∈ entries.map (·.1), k < key) (value : α) :
    entries.insert key value = entries ++ [(key, value)] := by
  induction entries with
  | nil => rfl
  | cons entry rest ih =>
    obtain ⟨k, v⟩ := entry
    obtain ⟨lt, below⟩ := List.forall_mem_cons.mp below
    rw [insert, if_neg (String.lt_asymm lt), if_neg (String.ne_of_lt lt).symm, ih below]
    rfl

/-- Entries that are in order are the map that they describe. -/
theorem ofList_of_isAscending {entries : List (String × α)} (ascending : IsAscending entries) :
    ofList entries = entries := by
  suffices from_map : ∀ map : Entries α, IsAscending (map ++ entries) →
      entries.foldl (fun map entry ↦ map.insert entry.1 entry.2) map = map ++ entries from
    from_map [] ascending
  clear ascending
  induction entries with
  | nil => exact fun map _ ↦ (List.append_nil map).symm
  | cons entry rest ih =>
    intro map ascending
    have below : ∀ k ∈ map.map (·.1), k < entry.1 := by
      intro k mem
      rw [IsAscending, List.map_append, List.pairwise_append] at ascending
      exact ascending.2.2 k mem entry.1 List.mem_cons_self
    rw [List.foldl_cons, insert_of_forall_lt below, ih _ (by rwa [List.append_assoc]),
      List.append_assoc, List.singleton_append]

end Entries

namespace Binary64

/-- A magnitude of an exponent below the greatest one is that of a finite float. -/
theorem isFinite_ofParts {magnitude : Nat} (lt : magnitude < infinityBits) :
    (ofParts false magnitude).isFinite = true := by
  have lt' : magnitude < 0x7FF * 2 ^ 52 := lt
  have toNat_eq : (ofParts false magnitude).bits.toNat = magnitude := by
    rw [ofParts, if_neg Bool.false_ne_true, Nat.add_zero, UInt64.toNat_ofNat']
    exact Nat.mod_eq_of_lt (by omega)
  have field_eq : (ofParts false magnitude).exponentField = magnitude / 2 ^ 52 % 2 ^ 11 := by
    rw [exponentField, toNat_eq, Nat.pow_eq, Nat.pow_eq]
  rw [isFinite, field_eq, bne_iff_ne]
  omega

/-- An integer that needs all of 64 bits is near to a finite float. -/
theorem isFinite_ofInt {n : Int} (ge : 2 ^ 63 ≤ n) (lt : n < 2 ^ 64) :
    (ofInt n).isFinite = true := by
  obtain ⟨m, rfl⟩ := Int.eq_ofNat_of_zero_le (show 0 ≤ n by omega)
  have le_m : 2 ^ 63 ≤ m := by exact_mod_cast ge
  have m_lt : m < 2 ^ 64 := by exact_mod_cast lt
  have scale_eq : fittingScale m 1 = 11 := by
    have log_eq : m.log2 = 63 := (Nat.log2_eq_iff (by omega)).mpr ⟨le_m, m_lt⟩
    rw [fittingScale_eq (by omega) Nat.one_pos, Nat.cast_one, div_one, Int.log_natCast,
      ← Nat.log2_eq_log_two, log_eq]
    rfl
  have rounded_le : roundHalfEven m (2 ^ 11) ≤ 2 ^ 53 := by
    rw [roundHalfEven]
    split_ifs <;> omega
  have float_eq : ofInt m =
      ofParts false (min infinityBits (1085 * 2 ^ 52 + roundHalfEven m (2 ^ 11))) := by
    have not_neg : decide ((m : Int) < 0) = false := decide_eq_false (by omega)
    have unscale_eq : unscale m 1 11 = (m, 2 ^ 11) := Prod.ext (Nat.mul_one m) rfl
    rw [ofInt, not_neg, Int.natAbs_natCast, ofRatio, if_neg (by omega), scale_eq]
    dsimp only
    rw [unscale_eq]
    rfl
  rw [float_eq]
  refine isFinite_ofParts (Nat.lt_of_le_of_lt (Nat.min_le_right _ _) ?_)
  have infinity_eq : infinityBits = 0x7FF * 2 ^ 52 := rfl
  omega
end Binary64

namespace Json

/-! ## What there is in a document -/

mutual

/-- Whether the members of every object are in the order of their names. -/
def IsOrdered : Json → Prop
  | arr items => ItemsAreOrdered items
  | obj members => Entries.IsAscending members ∧ MembersAreOrdered members
  | _ => True

/-- Whether every item is ordered. -/
def ItemsAreOrdered : List Json → Prop
  | [] => True
  | item :: rest => IsOrdered item ∧ ItemsAreOrdered rest

/-- Whether the value of every member is ordered. -/
def MembersAreOrdered : List (String × Json) → Prop
  | [] => True
  | (_, value) :: rest => IsOrdered value ∧ MembersAreOrdered rest

end

mutual

/-- The names of all members, at every depth. -/
def names : Json → List String
  | arr items => itemNames items
  | obj members => memberNames members
  | _ => []

/-- The names in the items of an array. -/
def itemNames : List Json → List String
  | [] => []
  | item :: rest => names item ++ itemNames rest

/-- The names of members and in their values. -/
def memberNames : List (String × Json) → List String
  | [] => []
  | (name, value) :: rest => name :: names value ++ memberNames rest

end

mutual

/-- The number of levels below a document. -/
def depth : Json → Nat
  | arr items => itemDepth items
  | obj members => memberDepth members
  | _ => 0

/-- The number of levels that the items of an array make up. -/
def itemDepth : List Json → Nat
  | [] => 0
  | item :: rest => max (depth item + 1) (itemDepth rest)

/-- The number of levels that the members of an object make up. -/
def memberDepth : List (String × Json) → Nat
  | [] => 0
  | (_, value) :: rest => max (depth value + 1) (memberDepth rest)

end

mutual

/-- All integers of a document. -/
def integers : Json → List Int
  | int n => [n]
  | arr items => itemIntegers items
  | obj members => memberIntegers members
  | _ => []

/-- The integers in the items of an array. -/
def itemIntegers : List Json → List Int
  | [] => []
  | item :: rest => integers item ++ itemIntegers rest

/-- The integers in the members of an object. -/
def memberIntegers : List (String × Json) → List Int
  | [] => []
  | (_, value) :: rest => integers value ++ memberIntegers rest

end

/-- A document as it is held: its integers are those of 64 bits with or without a sign, its floats
are finite, and the members of its objects are in the order of their names, none of them twice. -/
structure IsHeld (j : Json) : Prop where
  readable : j.IsReadable
  ordered : j.IsOrdered

/-! ## Rounding -/

mutual

/-- The document with the nearest floats in place of integers that 64 signed bits do not hold. -/
def rounded : Json → Json
  | int n => if n < 2 ^ 63 then int n else float (.ofInt n)
  | arr items => arr (roundedItems items)
  | obj members => obj (roundedMembers members)
  | j => j

/-- The rounded items of an array. -/
def roundedItems : List Json → List Json
  | [] => []
  | item :: rest => rounded item :: roundedItems rest

/-- The members of an object with their values rounded. -/
def roundedMembers : List (String × Json) → List (String × Json)
  | [] => []
  | (name, value) :: rest => (name, rounded value) :: roundedMembers rest

end

mutual

/-- Rounding changes a document unless all of its integers are below the bound. -/
theorem rounded_eq_self_iff : ∀ j : Json, j.rounded = j ↔ ∀ n ∈ j.integers, n < 2 ^ 63
  | null | bool _ | float _ | str _ => by simp [rounded, integers]
  | int n => by
    rw [rounded, integers, List.forall_mem_singleton]
    split_ifs with lt
    · exact iff_of_true rfl lt
    · exact iff_of_false nofun lt
  | arr items => by
    rw [rounded, integers, arr.injEq]
    exact roundedItems_eq_self_iff items
  | obj members => by
    rw [rounded, integers, obj.injEq]
    exact roundedMembers_eq_self_iff members

theorem roundedItems_eq_self_iff :
    ∀ items : List Json, roundedItems items = items ↔ ∀ n ∈ itemIntegers items, n < 2 ^ 63
  | [] => by simp [roundedItems, itemIntegers]
  | item :: rest => by
    rw [roundedItems, itemIntegers, List.cons.injEq, List.forall_mem_append,
      rounded_eq_self_iff item, roundedItems_eq_self_iff rest]

theorem roundedMembers_eq_self_iff :
    ∀ members : List (String × Json),
      roundedMembers members = members ↔ ∀ n ∈ memberIntegers members, n < 2 ^ 63
  | [] => by simp [roundedMembers, memberIntegers]
  | (name, value) :: rest => by
    rw [roundedMembers, memberIntegers, List.cons.injEq, List.forall_mem_append, Prod.mk.injEq,
      rounded_eq_self_iff value, roundedMembers_eq_self_iff rest, and_iff_right rfl]

end

mutual

/-- What is rounded can be read back still. -/
theorem isReadable_rounded : ∀ {j : Json}, j.IsReadable → j.rounded.IsReadable
  | null, _ | bool _, _ | str _, _ => trivial
  | float _, finite => finite
  | int n, exact => by
    rw [rounded]
    split_ifs with lt
    · assumption
    · exact Binary64.isFinite_ofInt (Int.not_lt.mp lt) exact.2
  | arr _, readable => itemsAreReadable_rounded readable
  | obj _, readable => membersAreReadable_rounded readable

theorem itemsAreReadable_rounded :
    ∀ {items : List Json}, ItemsAreReadable items → ItemsAreReadable (roundedItems items)
  | [], _ => trivial
  | _ :: _, readable => ⟨isReadable_rounded readable.1, itemsAreReadable_rounded readable.2⟩

theorem membersAreReadable_rounded :
    ∀ {members : List (String × Json)},
      MembersAreReadable members → MembersAreReadable (roundedMembers members)
  | [], _ => trivial
  | (_, _) :: _, readable =>
    ⟨isReadable_rounded readable.1, membersAreReadable_rounded readable.2⟩

end

/-- Documents that can be read back have the same text only if they are the same. -/
theorem render_inj {j other : Json} (readable : j.IsReadable) (other_readable : other.IsReadable) :
    j.render = other.render ↔ j = other := by
  constructor
  · intro render_eq
    have parse_eq := parse?_render readable
    rw [render_eq, parse?_render other_readable] at parse_eq
    exact (Option.some_inj.mp parse_eq).symm
  · rintro rfl
    rfl

end Json

namespace Value

theorem map_fst_ofMembers (members : List (String × Json)) :
    (ofMembers members).map (·.1) = members.map (·.1) := by
  induction members with
  | nil => rfl
  | cons member rest ih => exact congrArg (member.1 :: ·) ih

end Value

/-! ## The document of the value -/

namespace RenderSettings

variable {settings : RenderSettings} {objects : ObjectTable}

mutual

/-- A value that was a document is represented by the rounded document, wherever there are enough
levels left and no name is excluded. -/
theorem representedBy_rounded : ∀ {j : Json} {depth : Nat} {path : List ObjectId},
    j.IsReadable → j.IsOrdered → (∀ name ∈ j.names, settings.filter.includes name = true) →
    depth + j.depth ≤ settings.maxDepth →
    settings.RepresentedBy objects depth path (.ofJson j) j.rounded
  | .null, _, _, _, _, _, fits => .node fits .null
  | .bool b, _, _, _, _, _, fits => .node fits (.bool b)
  | .str s, _, _, _, _, _, fits => .node fits (.text s)
  | .float _, _, _, finite, _, _, fits => .node fits (.float finite)
  | .int n, depth, _, exact, _, _, fits => by
    have at_depth : depth ≤ settings.maxDepth := fits
    rw [Value.ofJson, Value.ofJsonInt, Json.rounded]
    by_cases lt : n < 2 ^ 63
    · rw [if_pos lt, if_pos ⟨exact.1, lt⟩]
      exact .node at_depth (.int n)
    · rw [if_neg lt, if_neg fun within ↦ lt within.2]
      exact .node at_depth (.float (Binary64.isFinite_ofInt (Int.not_lt.mp lt) exact.2))
  | .arr _, _, _, readable, ordered, kept, fits =>
    .node (Nat.le_of_add_right_le fits)
      (.list (itemsRepresentedBy_rounded readable ordered kept fits))
  | .obj members, _, _, readable, ordered, kept, fits => by
    have ascending : Entries.IsAscending (Value.ofMembers members) := by
      rw [Entries.IsAscending, Value.map_fst_ofMembers]
      exact ordered.1
    rw [Value.ofJson, Entries.ofList_of_isAscending ascending]
    exact .node (Nat.le_of_add_right_le fits)
      (.map (fieldsRepresentedBy_rounded readable ordered.2 kept fits))

theorem itemsRepresentedBy_rounded : ∀ {items : List Json} {depth : Nat} {path : List ObjectId},
    Json.ItemsAreReadable items → Json.ItemsAreOrdered items →
    (∀ name ∈ Json.itemNames items, settings.filter.includes name = true) →
    depth + Json.itemDepth items ≤ settings.maxDepth →
    settings.ItemsRepresentedBy objects (depth + 1) path (Value.ofItems items)
      (Json.roundedItems items)
  | [], _, _, _, _, _, _ => .nil
  | item :: rest, depth, _, readable, ordered, kept, fits => by
    obtain ⟨item_kept, rest_kept⟩ := List.forall_mem_append.mp kept
    have both : depth + max (item.depth + 1) (Json.itemDepth rest) ≤ settings.maxDepth := fits
    exact .cons (representedBy_rounded readable.1 ordered.1 item_kept (by omega))
      (itemsRepresentedBy_rounded readable.2 ordered.2 rest_kept (by omega))

theorem fieldsRepresentedBy_rounded :
    ∀ {members : List (String × Json)} {depth : Nat} {path : List ObjectId},
    Json.MembersAreReadable members → Json.MembersAreOrdered members →
    (∀ name ∈ Json.memberNames members, settings.filter.includes name = true) →
    depth + Json.memberDepth members ≤ settings.maxDepth →
    settings.FieldsRepresentedBy objects (depth + 1) path (Value.ofMembers members)
      (Json.roundedMembers members)
  | [], _, _, _, _, _, _ => .nil
  | (name, value) :: rest, depth, _, readable, ordered, kept, fits => by
    obtain ⟨kept, rest_kept⟩ := List.forall_mem_append.mp kept
    obtain ⟨name_kept, value_kept⟩ := List.forall_mem_cons.mp kept
    have both : depth + max (value.depth + 1) (Json.memberDepth rest) ≤ settings.maxDepth := fits
    exact .included name_kept (representedBy_rounded readable.1 ordered.1 value_kept (by omega))
      (fieldsRepresentedBy_rounded readable.2 ordered.2 rest_kept (by omega))

end

/-- The text of the first tier for a document that is held, with no name of it excluded and all of
its levels allowed, is the compact text of the document with its integers rounded to floats where 64
signed bits do not hold them.  It is the compact text of the document itself if and only if they
hold all of its integers. -/
theorem structuredText_ofJson (settings : RenderSettings) (objects : ObjectTable) {j : Json}
    (held : j.IsHeld) (kept : ∀ name ∈ j.names, settings.filter.includes name = true)
    (fits : j.depth ≤ settings.maxDepth) :
    settings.structuredText? objects (.ofJson j) = some (.ok j.rounded.render) ∧
      (settings.structuredText? objects (.ofJson j) = some (.ok j.render) ↔
        ∀ n ∈ j.integers, n < 2 ^ 63) := by
  have represented : settings.RepresentedBy objects 0 [] (.ofJson j) j.rounded :=
    representedBy_rounded held.readable held.ordered kept (by omega)
  have text_eq : settings.structuredText? objects (.ofJson j) = some (.ok j.rounded.render) :=
    structuredText?_eq_ok.mpr ⟨_, representedBy_iff_document.mp represented, rfl⟩
  refine ⟨text_eq, ?_⟩
  rw [text_eq, Option.some_inj, Except.ok.injEq,
    Json.render_inj (Json.isReadable_rounded held.readable) held.readable,
    Json.rounded_eq_self_iff]

/-- The greatest integer of 64 bits is not written as it is. -/
theorem maxInteger_rounded :
    let j : Json := .obj [("id", .int (2 ^ 64 - 1)), ("name", .str "ada")]
    j.IsHeld ∧
      ({} : RenderSettings).structuredText? (fun _ ↦ default) (.ofJson j) ≠
        some (.ok j.render) := by
  intro j
  have held : j.IsHeld :=
    ⟨⟨⟨by decide, by decide⟩, trivial, trivial⟩, ⟨by decide, trivial, trivial, trivial⟩⟩
  have kept : ∀ name ∈ j.names, ({} : RenderSettings).filter.includes name = true := by
    decide +kernel
  refine ⟨held, fun text_eq ↦ ?_⟩
  have below := (structuredText_ofJson {} (fun _ ↦ default) held kept (by decide)).2.mp text_eq
  exact absurd (below (2 ^ 64 - 1) List.mem_cons_self) (by decide)

end RenderSettings

end AuditTrail

import AuditTrail.Proofs.Redaction.Serialize
import AuditTrail.Proofs.View.Fallback

/-!
# The first tier that succeeds

Each tier makes something of the data by itself: a text, an error, or nothing at all if the date
format has no text for a timestamp.  The serialized data are the text of the first tier that has
one, with the errors of the tiers before it.  This says all that there is to say, since it leaves no
choice.

The last tier has no way to fail, so there is a text; and none of the tiers has an empty one.  A
container comes to the last tier if it has no document and the text of some object that it shows
breaks off.
-/

namespace AuditTrail

/-! ## Date formats -/

namespace Time

/-- An item has a text unless it can only be read. -/
theorem PatternItem.exists_text? {item : PatternItem} (ne : item ≠ .named .offsetLenient)
    (t : Timestamp) : ∃ s, item.text? t = some s := by
  cases item with
  | literal | number => exact ⟨_, rfl⟩
  | named part =>
    cases part with
    | offsetLenient => exact absurd rfl ne
    | _ => exact ⟨_, rfl⟩

/-- A pattern has a text for a timestamp unless it holds the item that can only be read. -/
theorem Pattern.exists_text?_iff {pattern : Pattern} {t : Timestamp} :
    (∃ s, pattern.text? t = some s) ↔ .named .offsetLenient ∉ pattern := by
  suffices texts : (∃ texts, pattern.mapM (PatternItem.text? · t) = some texts) ↔
      .named .offsetLenient ∉ pattern by
    simpa only [text?, Option.map_eq_some_iff, exists_comm, exists_eq_right', exists_and_left,
      exists_eq', and_true] using texts
  induction pattern with
  | nil => exact ⟨fun _ ↦ List.not_mem_nil, fun _ ↦ ⟨[], rfl⟩⟩
  | cons item rest ih =>
    rw [List.mem_cons, not_or, ← ih, List.mapM_cons]
    constructor
    · rintro ⟨texts, texts_eq⟩
      obtain ⟨text, text_eq, tail_eq⟩ := Option.bind_eq_some_iff.mp texts_eq
      obtain ⟨tail, tail_eq, -⟩ := Option.bind_eq_some_iff.mp tail_eq
      refine ⟨?_, tail, tail_eq⟩
      rintro rfl
      cases text_eq
    · rintro ⟨ne, tail, tail_eq⟩
      obtain ⟨text, text_eq⟩ := PatternItem.exists_text? (Ne.symm ne) t
      refine ⟨text :: tail, ?_⟩
      rw [text_eq, tail_eq]
      rfl

end Time

/-- A date format has a text for every timestamp unless it holds the item that can only be read. -/
theorem DateFormat.isTotal_iff {format : DateFormat} :
    format.IsTotal ↔ .named .offsetLenient ∉ format.pattern :=
  ⟨fun total ↦ Time.Pattern.exists_text?_iff.mp (total ⟨0, 0, 0⟩),
    fun not_mem _ ↦ Time.Pattern.exists_text?_iff.mpr not_mem⟩

/-! ## No text is empty -/

theorem Decimal.digits_ne_nil (d : Decimal) : d.digits ≠ [] :=
  Nat.toDigits_ne_nil

theorem Numeral.ofInt_ne_nil (n : Int) : ofInt n ≠ [] := by
  cases n with
  | ofNat n => exact Nat.toDigits_ne_nil
  | negSucc n => exact List.cons_ne_nil _ _

namespace FloatLayout

variable (layout : FloatLayout)

theorem positionalDigits_ne_nil {digits : List Char} (digits_ne : digits ≠ []) (leading : Int) :
    layout.positionalDigits digits leading ≠ [] := by
  rw [positionalDigits]
  split
  · exact List.cons_ne_nil _ _
  · dsimp only
    split
    · exact List.append_ne_nil_of_left_ne_nil (List.append_ne_nil_of_left_ne_nil digits_ne _) _
    · exact List.append_ne_nil_of_right_ne_nil _ (List.cons_ne_nil _ _)

theorem exponentDigits_ne_nil (digits : List Char) (leading : Int) :
    layout.exponentDigits digits leading ≠ [] :=
  List.append_ne_nil_of_left_ne_nil
    (List.append_ne_nil_of_right_ne_nil _ (List.cons_ne_nil _ _)) _

theorem toList_finiteText_ne_nil (x : Binary64) : (layout.finiteText x).toList ≠ [] := by
  rw [finiteText, String.toList_ofList]
  refine List.append_ne_nil_of_right_ne_nil _ ?_
  split
  · exact layout.positionalDigits_ne_nil (Decimal.digits_ne_nil _) _
  · exact layout.exponentDigits_ne_nil _ _

end FloatLayout

namespace Json

theorem chars_ne_nil (j : Json) : j.chars ≠ [] := by
  cases j with
  | null => rw [chars]; decide
  | bool b => cases b <;> rw [chars] <;> decide
  | int n => rw [chars]; exact Numeral.ofInt_ne_nil n
  | float x =>
    rw [chars]
    split
    · exact floatLayout.toList_finiteText_ne_nil x
    · decide
  | str s => rw [chars]; exact List.cons_ne_nil _ _
  | arr items => rw [chars]; exact List.cons_ne_nil _ _
  | obj members => rw [chars]; exact List.cons_ne_nil _ _

theorem render_ne_empty (j : Json) : j.render ≠ "" :=
  fun empty ↦ j.chars_ne_nil (String.ofList_eq_empty_iff.mp empty)

end Json

/-! ## Tiers by themselves -/

/-- The tiers that are tried before a tier. -/
def Tier.earlier (tier : Tier) : List Tier :=
  Tier.all.takeWhile (· ≠ tier)

/-- Of two tiers one is tried before the other. -/
theorem Tier.eq_or_mem_earlier (tier other : Tier) :
    tier = other ∨ tier ∈ other.earlier ∨ other ∈ tier.earlier := by
  cases tier <;> cases other <;> decide

example : Tier.structured.earlier = [] ∧ Tier.customText.earlier = [.structured] ∧
    Tier.fieldDump.earlier = [.structured, .customText] := by decide

/-- The text is that of the first tier that has one, and the failures are the errors of the tiers
before it, where `attempt` says what a tier makes of the data. -/
structure Serialized.IsFirst (attempt : Tier → Option (Except RenderError String))
    (typeName : String) (serialized : Serialized) : Prop where
  text : attempt serialized.tier = some (.ok serialized.text)
  failures : List.Forall₂
    (fun tier failure ↦ failure.tier = tier ∧ failure.typeName = typeName ∧
      attempt tier = some (.error failure.error))
    serialized.tier.earlier serialized.failures

namespace Serialized.IsFirst

variable {attempt : Tier → Option (Except RenderError String)} {typeName : String}
  {serialized other : Serialized}

/-- The tiers before the first one that succeeds have failed. -/
theorem exists_error (first : serialized.IsFirst attempt typeName) {tier : Tier}
    (tier_mem : tier ∈ serialized.tier.earlier) : ∃ error, attempt tier = some (.error error) := by
  obtain ⟨i, i_lt, rfl⟩ := List.mem_iff_getElem.mp tier_mem
  have failed := first.failures.get i_lt (first.failures.length_eq ▸ i_lt)
  exact ⟨_, failed.2.2⟩

/-- There is no choice. -/
theorem unique (first : serialized.IsFirst attempt typeName)
    (other_first : other.IsFirst attempt typeName) : serialized = other := by
  have tier_eq : serialized.tier = other.tier := by
    rcases Tier.eq_or_mem_earlier serialized.tier other.tier with tier_eq | mem | mem
    · exact tier_eq
    · obtain ⟨error, error_eq⟩ := other_first.exists_error mem
      cases first.text.symm.trans error_eq
    · obtain ⟨error, error_eq⟩ := first.exists_error mem
      cases other_first.text.symm.trans error_eq
  obtain ⟨text, tier, failures⟩ := serialized
  obtain ⟨otherText, otherTier, otherFailures⟩ := other
  cases tier_eq
  cases first.text.symm.trans other_first.text
  refine congrArg _ (List.right_unique_forall₂' ?_ first.failures other_first.failures)
  rintro tier ⟨_, _, error⟩ ⟨_, _, otherError⟩ ⟨rfl, rfl, error_eq⟩ ⟨rfl, rfl, otherError_eq⟩
  cases error_eq.symm.trans otherError_eq
  rfl

end Serialized.IsFirst

namespace RenderSettings

variable (settings : RenderSettings) (objects : ObjectTable)

/-- What a tier makes of data.  Without an answer the date format has no text for a timestamp that
is met. -/
def attempt? (data : AuditData) : Tier → Option (Except RenderError String)
  | .structured => settings.structuredText? objects data.toValue
  | .customText => some (settings.customText objects data)
  | .fieldDump => some (.ok (settings.fieldDump objects data))

variable {settings objects}

/-- No tier has an empty text. -/
theorem text_ne_empty {data : AuditData} {tier : Tier} {text : String}
    (text_eq : settings.attempt? objects data tier = some (.ok text)) : text ≠ "" := by
  cases tier with
  | structured =>
    rw [attempt?, structuredText?] at text_eq
    split at text_eq
    · cases text_eq
      exact Json.render_ne_empty _
    · cases text_eq
    · cases text_eq
  | customText =>
    rw [attempt?, customText] at text_eq
    split at text_eq
    · cases text_eq
    · split at text_eq
      · cases text_eq
      next text_ne =>
        cases text_eq
        exact text_ne
    · cases text_eq
  | fieldDump =>
    cases text_eq
    exact Json.render_ne_empty _

/-- Data without a limit on payloads are serialized by the first tier that succeeds. -/
theorem isFirst_of_serializeUnlimited? {data : AuditData} {serialized : Serialized}
    (serialized_eq : settings.serializeUnlimited? objects data = some serialized) :
    serialized.IsFirst (settings.attempt? objects data) (data.typeName objects) := by
  obtain ⟨outcome, structured_eq, rfl⟩ := Option.map_eq_some_iff.mp serialized_eq
  cases outcome with
  | ok text => exact ⟨structured_eq, .nil⟩
  | error error =>
    dsimp only
    rw [fallback]
    cases custom_eq : settings.customText objects data with
    | ok text => exact ⟨congrArg some custom_eq, .cons ⟨rfl, rfl, structured_eq⟩ .nil⟩
    | error customError =>
      exact ⟨rfl, .cons ⟨rfl, rfl, structured_eq⟩
        (.cons ⟨rfl, rfl, congrArg some custom_eq⟩ .nil)⟩

/-- **The first tier that succeeds.**  Data are serialized to the text of the first tier that has
one on the data with limited payloads, with the errors of the tiers before it. -/
theorem serialize?_eq_some_iff {data : AuditData} {serialized : Serialized} :
    settings.serialize? objects data = some serialized ↔
      serialized.IsFirst (settings.attempt? objects (data.limitPayloads settings.limit.run))
        (data.typeName objects) := by
  have typeName_eq : (data.limitPayloads settings.limit.run).typeName objects =
      data.typeName objects := by
    cases data <;> rfl
  rw [← typeName_eq]
  refine ⟨isFirst_of_serializeUnlimited?, fun first ↦ ?_⟩
  have structured : ∃ outcome, settings.structuredText? objects
      (data.limitPayloads settings.limit.run).toValue = some outcome := by
    cases tier_eq : serialized.tier with
    | structured => exact ⟨_, tier_eq ▸ first.text⟩
    | customText | fieldDump =>
      obtain ⟨error, error_eq⟩ := first.exists_error
        (show Tier.structured ∈ serialized.tier.earlier by rw [tier_eq]; decide)
      exact ⟨_, error_eq⟩
  obtain ⟨outcome, structured_eq⟩ := structured
  have found_eq : settings.serialize? objects data = some _ :=
    congrArg (Option.map _) structured_eq
  rw [found_eq, (isFirst_of_serializeUnlimited? found_eq).unique first]

/-- A container has no custom text if and only if the text of an object that it shows breaks
off. -/
theorem customText_eq_error_iff {data : AuditData} (container : data.IsContainer) :
    (∃ error, settings.customText objects data = .error error) ↔
      ∃ id ∈ data.toValue.shown settings.filter.includes, ∃ text,
        (objects id).hook = some (.breaksOff text) := by
  have failed_iff : (∃ error, settings.customText objects data = .error error) ↔
      ¬ (data.toValue.written objects settings.filter.includes).complete = true := by
    rw [customText_of_isContainer container]
    split <;> simp [*]
  have broken_iff (id : ObjectId) :
      ¬ ((objects id).ownText settings.filter.includes).complete = true ↔
        ∃ text, (objects id).hook = some (.breaksOff text) := by
    rw [Object.ownText]
    cases (objects id).hook with
    | none => simp [Written.whole]
    | some hook => cases hook <;> simp [Object.hookText, Written.whole, Written.broken]
  rw [failed_iff, Value.written, Value.complete_view, List.all_eq_true]
  simp only [not_forall, exists_prop, broken_iff]

/-- **There is always a text.**  Under a date format that has a text for every timestamp, data are
serialized to a text that is not empty: that of the first tier that has one on the data with limited
payloads, with the errors of the tiers before it under the type name of the data.  A container comes
to the last tier if and only if it has no document and the text of an object that it shows breaks
off, whatever has been written by then. -/
theorem exists_first_tier (settings : RenderSettings) (objects : ObjectTable) (data : AuditData)
    (total : settings.dateFormat.IsTotal) :
    ∃ serialized, settings.serialize? objects data = some serialized ∧ serialized.text ≠ "" ∧
      serialized.IsFirst (settings.attempt? objects (data.limitPayloads settings.limit.run))
        (data.typeName objects) ∧
      (data.IsContainer → (serialized.tier = .fieldDump ↔
        (∃ error, settings.attempt? objects (data.limitPayloads settings.limit.run) .structured =
          some (.error error)) ∧
        ∃ id ∈ data.toValue.shown settings.filter.includes, ∃ text,
          (objects id).hook = some (.breaksOff text))) := by
  obtain ⟨serialized, serialized_eq⟩ :=
    Option.isSome_iff_exists.mp (isSome_serialize? total objects data)
  have first := serialize?_eq_some_iff.mp serialized_eq
  refine ⟨serialized, serialized_eq, text_ne_empty first.text, first, fun container ↦ ?_⟩
  rw [← AuditData.shown_limitPayloads settings.filter.includes settings.limit data,
    ← customText_eq_error_iff ((AuditData.isContainer_limitPayloads _ data).mpr container)]
  constructor
  · intro tier_eq
    have failed (tier : Tier) (tier_mem : tier ∈ Tier.fieldDump.earlier) :=
      first.exists_error (tier_eq ▸ tier_mem)
    obtain ⟨customError, customError_eq⟩ := failed .customText (by decide)
    exact ⟨failed .structured (by decide), customError, Option.some_inj.mp customError_eq⟩
  · rintro ⟨⟨error, error_eq⟩, customError, customError_eq⟩
    have text_eq := first.text
    cases tier_eq : serialized.tier with
    | structured =>
      rw [tier_eq, error_eq] at text_eq
      cases text_eq
    | customText =>
      rw [tier_eq, attempt?, customError_eq] at text_eq
      cases text_eq
    | fieldDump => rfl

/-- A request with an object that breaks off comes to the last tier. -/
theorem sessionRequest_reaches_fieldDump :
    DateFormat.standard.IsTotal ∧ (sessionRequest "a").IsContainer ∧
      ∃ serialized, ({} : RenderSettings).serialize? (sessionObjects "a") (sessionRequest "a") =
          some serialized ∧
        serialized.tier = .fieldDump ∧ serialized.text ≠ "" := by
  have total : DateFormat.standard.IsTotal := DateFormat.isTotal_iff.mpr (by decide)
  obtain ⟨serialized, serialized_eq, text_ne, first, fieldDump_iff⟩ :=
    exists_first_tier {} (sessionObjects "a") (sessionRequest "a") total
  refine ⟨total, trivial, serialized, serialized_eq, (fieldDump_iff trivial).mpr ⟨?_, ?_⟩, text_ne⟩
  · exact ⟨.structured "Proxy: detached", by decide +kernel⟩
  · exact ⟨⟨1⟩, by decide, "Pro", rfl⟩

end RenderSettings

end AuditTrail

import AuditTrail.Proofs.Serialize.PayloadBound

/-!
# What a payload limit leaves

A limit measures all payloads among some values before it replaces any of them.  Here this is one
pass: what is left of some values is said payload by payload, each with the number of its
measurement, and nothing is left if one of the measurements fails.  The values are then kept as they
are, and otherwise the limit leaves what this pass leaves and nothing else.

In data the limit changes the parts and nothing that stands beside them.
-/

namespace AuditTrail

namespace PayloadLimit

/-- A payload among some values cannot be measured.  Its measurement has the number of payloads
before it. -/
def MeasurementFails (limit : PayloadLimit) (values : List Value) : Prop :=
  ∃ before payload after reason, values = before ++ .bytes payload :: after ∧
    limit.sizer (before.filterMap Value.payload?).length payload = .error reason

/-- What is left of some values, from the n-th measurement on. -/
inductive Leaves (limit : PayloadLimit) : (n : Nat) → (values left : List Value) → Prop
  | nil {n} : Leaves limit n [] []
  /-- What is no payload is kept. -/
  | other {n value values left} : value.payload? = none → Leaves limit n values left →
      Leaves limit n (value :: values) (value :: left)
  /-- What exceeds the limit is replaced by zeros. -/
  | replaced {n payload size values left} : limit.sizer n payload = .ok size →
      limit.limit < size → Leaves limit (n + 1) values left →
      Leaves limit n (.bytes payload :: values) (.bytes (List.replicate limit.limit 0) :: left)
  | kept {n payload size values left} : limit.sizer n payload = .ok size →
      size ≤ limit.limit → limit.policy = .passThrough → Leaves limit (n + 1) values left →
      Leaves limit n (.bytes payload :: values) (.bytes payload :: left)
  | dropped {n payload size values left} : limit.sizer n payload = .ok size →
      size ≤ limit.limit → limit.policy = .drop → Leaves limit (n + 1) values left →
      Leaves limit n (.bytes payload :: values) left

variable {limit : PayloadLimit} {n : Nat} {values left : List Value}

theorem eq_bytes_of_payload? {value : Value} {payload : List UInt8}
    (payload_eq : value.payload? = some payload) : value = .bytes payload := by
  cases value <;> cases payload_eq
  rfl

/-! ## One pass -/

/-- The values under the limit from the n-th measurement on, or the failure of a measurement. -/
def limitedFrom (limit : PayloadLimit) (n : Nat) (values : List Value) :
    Except String (List Value) := do
  let sizes ← measureFrom limit.sizer n values
  return (values.zip sizes).filterMap fun (value, size) ↦ limit.apply value size

theorem limitedFrom_zero (limit : PayloadLimit) (values : List Value) :
    limit.limitedFrom 0 values = limit.limited values := rfl

theorem limitedFrom_other {value : Value} (none_eq : value.payload? = none) :
    limit.limitedFrom n (value :: values) =
      (do return value :: (← limit.limitedFrom n values)) := by
  rw [limitedFrom, measureFrom, none_eq, limitedFrom]
  cases measureFrom limit.sizer n values <;> rfl

theorem limitedFrom_bytes {payload : List UInt8} :
    limit.limitedFrom n (.bytes payload :: values) = (do
      let size ← limit.sizer n payload
      let left ← limit.limitedFrom (n + 1) values
      return (limit.apply (.bytes payload) (some size)).toList ++ left) := by
  have measure_eq : measureFrom limit.sizer n (.bytes payload :: values) =
      (do return some (← limit.sizer n payload) :: (← measureFrom limit.sizer (n + 1) values)) :=
    rfl
  rw [limitedFrom, measure_eq, limitedFrom]
  cases limit.sizer n payload with
  | error reason => rfl
  | ok size =>
    cases measureFrom limit.sizer (n + 1) values with
    | error reason => rfl
    | ok sizes =>
      cases applied : limit.apply (.bytes payload) (some size) <;>
        simp [bind, Except.bind, pure, Except.pure, applied]

theorem limitedFrom_bytes_of_ok {payload : List UInt8} {size : Nat}
    (size_eq : limit.sizer n payload = .ok size)
    (left_eq : limit.limitedFrom (n + 1) values = .ok left) :
    limit.limitedFrom n (.bytes payload :: values) =
      .ok ((limit.apply (.bytes payload) (some size)).toList ++ left) := by
  rw [limitedFrom_bytes, size_eq, left_eq]
  rfl

/-- A limit gives up if and only if the measurement of some payload fails. -/
theorem exists_limitedFrom_eq_error_iff :
    (∃ reason, limit.limitedFrom n values = .error reason) ↔
      ∃ before payload after reason, values = before ++ .bytes payload :: after ∧
        limit.sizer (n + (before.filterMap Value.payload?).length) payload = .error reason := by
  induction values generalizing n with
  | nil =>
    constructor
    · rintro ⟨_, ⟨⟩⟩
    · rintro ⟨before, payload, after, reason, values_eq, -⟩
      simp at values_eq
  | cons value rest ih =>
    cases payload_eq : value.payload? with
    | none =>
      have tail_iff : (∃ reason, limit.limitedFrom n (value :: rest) = .error reason) ↔
          ∃ reason, limit.limitedFrom n rest = .error reason := by
        rw [limitedFrom_other payload_eq]
        cases limit.limitedFrom n rest <;> simp [bind, Except.bind, pure, Except.pure]
      rw [tail_iff, ih]
      constructor
      · rintro ⟨before, payload, after, reason, rfl, failed⟩
        refine ⟨value :: before, payload, after, reason, rfl, ?_⟩
        rwa [List.filterMap_cons_none payload_eq]
      · rintro ⟨_ | ⟨first, before⟩, payload, after, reason, values_eq, failed⟩ <;> cases values_eq
        · cases payload_eq
        · rw [List.filterMap_cons_none payload_eq] at failed
          exact ⟨before, payload, after, reason, rfl, failed⟩
    | some payload =>
      obtain rfl := eq_bytes_of_payload? payload_eq
      have head_or_tail : (∃ reason, limit.limitedFrom n (.bytes payload :: rest) = .error reason) ↔
          (∃ reason, limit.sizer n payload = .error reason) ∨
            ∃ reason, limit.limitedFrom (n + 1) rest = .error reason := by
        rw [limitedFrom_bytes]
        cases limit.sizer n payload <;> cases limit.limitedFrom (n + 1) rest <;>
          simp [bind, Except.bind, pure, Except.pure]
      have number_eq (before : List Value) :
          n + ((Value.bytes payload :: before).filterMap Value.payload?).length =
            n + 1 + (before.filterMap Value.payload?).length := by
        rw [List.filterMap_cons_some payload_eq, List.length_cons, Nat.add_comm _ 1, Nat.add_assoc]
      rw [head_or_tail, ih]
      constructor
      · rintro (⟨reason, failed⟩ | ⟨before, other, after, reason, rfl, failed⟩)
        · exact ⟨[], payload, rest, reason, rfl, failed⟩
        · exact ⟨.bytes payload :: before, other, after, reason, rfl, number_eq before ▸ failed⟩
      · rintro ⟨_ | ⟨first, before⟩, other, after, reason, values_eq, failed⟩ <;> cases values_eq
        · exact .inl ⟨reason, failed⟩
        · exact .inr ⟨before, other, after, reason, rfl, number_eq before ▸ failed⟩

section Apply

variable {value : Value} {size : Nat}

theorem apply_of_lt (lt : limit.limit < size) :
    limit.apply value (some size) = some (.bytes (List.replicate limit.limit 0)) :=
  if_pos lt

theorem apply_of_le (le : size ≤ limit.limit) :
    limit.apply value (some size) =
      match limit.policy with
      | .passThrough => some value
      | .drop => none :=
  if_neg (Nat.not_lt.mpr le)

end Apply

/-- The values under the limit are what the limit leaves, payload by payload. -/
theorem leaves_iff : limit.Leaves n values left ↔ limit.limitedFrom n values = .ok left := by
  constructor
  · intro leaves
    induction leaves with
    | nil => rfl
    | other none_eq _ ih =>
      rw [limitedFrom_other none_eq, ih]
      rfl
    | replaced size_eq lt _ ih =>
      rw [limitedFrom_bytes_of_ok size_eq ih, apply_of_lt lt]
      rfl
    | kept size_eq le policy_eq _ ih =>
      rw [limitedFrom_bytes_of_ok size_eq ih, apply_of_le le, policy_eq]
      rfl
    | dropped size_eq le policy_eq _ ih =>
      rw [limitedFrom_bytes_of_ok size_eq ih, apply_of_le le, policy_eq]
      rfl
  · intro limited_eq
    induction values generalizing n left with
    | nil =>
      cases limited_eq
      exact .nil
    | cons value rest ih =>
      cases payload_eq : value.payload? with
      | none =>
        rw [limitedFrom_other payload_eq] at limited_eq
        obtain ⟨left, rest_eq, ⟨⟩⟩ := bind_eq_ok.mp limited_eq
        exact .other payload_eq (ih rest_eq)
      | some payload =>
        obtain rfl := eq_bytes_of_payload? payload_eq
        rw [limitedFrom_bytes] at limited_eq
        obtain ⟨size, size_eq, limited_eq⟩ := bind_eq_ok.mp limited_eq
        obtain ⟨left, rest_eq, ⟨⟩⟩ := bind_eq_ok.mp limited_eq
        rcases Nat.lt_or_ge limit.limit size with lt | le
        · rw [apply_of_lt lt]
          exact .replaced size_eq lt (ih rest_eq)
        · rw [apply_of_le le]
          cases policy_eq : limit.policy with
          | passThrough => exact .kept size_eq le policy_eq (ih rest_eq)
          | drop => exact .dropped size_eq le policy_eq (ih rest_eq)

/-- Values with a failing measurement stay as they are. -/
theorem run_of_measurementFails (fails : limit.MeasurementFails values) :
    limit.run values = values := by
  obtain ⟨before, payload, after, reason, values_eq, failed⟩ := fails
  rw [← Nat.zero_add (before.filterMap Value.payload?).length] at failed
  obtain ⟨reason, error_eq⟩ := exists_limitedFrom_eq_error_iff.mpr
    ⟨before, payload, after, reason, values_eq, failed⟩
  rw [limitedFrom_zero] at error_eq
  rw [run, error_eq]

/-- Other values are what the limit leaves of them. -/
theorem leaves_iff_eq_run (measures : ¬ limit.MeasurementFails values) :
    limit.Leaves 0 values left ↔ left = limit.run values := by
  rw [leaves_iff, run, ← limitedFrom_zero]
  cases limited_eq : limit.limitedFrom 0 values with
  | ok limited => exact ⟨fun ok_eq ↦ (Except.ok.inj ok_eq).symm, fun left_eq ↦ left_eq ▸ rfl⟩
  | error reason =>
    obtain ⟨before, payload, after, reason, values_eq, failed⟩ :=
      exists_limitedFrom_eq_error_iff.mp ⟨reason, limited_eq⟩
    rw [Nat.zero_add] at failed
    exact absurd ⟨before, payload, after, reason, values_eq, failed⟩ measures

/-! ## A second pass -/

/-- Counting bytes and keeping what does not exceed the limit, a limit leaves values as they are if
no payload among them exceeds it. -/
theorem leaves_self (counting : limit.sizer = .counting) (passes : limit.policy = .passThrough)
    (bounded : ∀ value ∈ values, ∀ payload, value.payload? = some payload →
      payload.length ≤ limit.limit) : limit.Leaves n values values := by
  induction values generalizing n with
  | nil => exact .nil
  | cons value rest ih =>
    obtain ⟨value_bounded, rest_bounded⟩ := List.forall_mem_cons.mp bounded
    cases payload_eq : value.payload? with
    | none => exact .other payload_eq (ih rest_bounded)
    | some payload =>
      obtain rfl := eq_bytes_of_payload? payload_eq
      have size_eq : limit.sizer n payload = .ok payload.length := by
        rw [counting, PayloadSizer.counting]
      exact .kept size_eq (value_bounded payload payload_eq) passes (ih rest_bounded)

/-- The count of bytes does not fail. -/
theorem not_measurementFails (counting : limit.sizer = .counting) (values : List Value) :
    ¬ limit.MeasurementFails values := by
  rintro ⟨before, payload, after, reason, -, failed⟩
  rw [counting] at failed
  cases failed

/-- Counting bytes and keeping what does not exceed the limit, a second pass changes nothing. -/
theorem run_run (counting : limit.sizer = .counting) (passes : limit.policy = .passThrough)
    (values : List Value) : limit.run (limit.run values) = limit.run values := by
  have bounded : ∀ value ∈ limit.run values, ∀ payload, value.payload? = some payload →
      payload.length ≤ limit.limit := by
    intro value value_mem payload payload_eq
    exact (measures_of_counting counting values).length_payload_le value_mem payload_eq
  exact ((leaves_iff_eq_run (not_measurementFails counting _)).mp
    (leaves_self counting passes bounded)).symm

end PayloadLimit

/-! ## Data -/

namespace AuditData

/-- What stands beside the parts of data. -/
def withoutParts : AuditData → AuditData
  | request r => request { r with parts := [] }
  | response _ => response none
  | custom id => custom id

/-- Data are determined by their parts and by what stands beside them. -/
theorem eq_of_parts_eq {data other : AuditData} (beside_eq : other.withoutParts = data.withoutParts)
    (parts_eq : other.parts = data.parts) : other = data := by
  cases data with
  | request r =>
    cases other with
    | request s =>
      obtain ⟨parts, method, uri, headers, attachments⟩ := s
      cases parts_eq
      cases beside_eq
      rfl
    | response | custom => cases beside_eq
  | response r =>
    cases other with
    | response s =>
      have head_eq : s.toList.head? = r.toList.head? := congrArg List.head? parts_eq
      rw [Option.head?_toList, Option.head?_toList] at head_eq
      exact congrArg response head_eq
    | request | custom => cases beside_eq
  | custom id =>
    cases other with
    | custom => exact beside_eq
    | request | response => cases beside_eq

theorem withoutParts_limitPayloads (limit : List Value → List Value) (data : AuditData) :
    (data.limitPayloads limit).withoutParts = data.withoutParts := by
  cases data <;> rfl

/-- Of a single value a limit leaves at most one. -/
theorem toList_head?_run (limit : PayloadLimit) (value : Option Value) :
    (limit.run value.toList).head?.toList = limit.run value.toList := by
  have length_le := limit.length_run_le value.toList
  match left_eq : limit.run value.toList with
  | [] | [_] => rfl
  | first :: second :: rest =>
    rw [left_eq] at length_le
    cases value <;> simp at length_le

/-- The parts of limited data are what is left of the parts. -/
theorem parts_limitPayloads (limit : PayloadLimit) (data : AuditData) :
    (data.limitPayloads limit.run).parts = limit.run data.parts := by
  cases data with
  | request r => rfl
  | response r => exact toList_head?_run limit r
  | custom id => rfl

/-- Data whose parts are limited are the data with what is left of the parts in their place. -/
theorem eq_limitPayloads_iff {limit : PayloadLimit} {data other : AuditData} :
    other = data.limitPayloads limit.run ↔
      other.withoutParts = data.withoutParts ∧ other.parts = limit.run data.parts := by
  rw [← withoutParts_limitPayloads limit.run data, ← parts_limitPayloads limit data]
  constructor
  · rintro rfl
    exact ⟨rfl, rfl⟩
  · rintro ⟨beside_eq, parts_eq⟩
    exact eq_of_parts_eq beside_eq parts_eq

end AuditData

/-! ## The limit -/

/-- **What a limit leaves.**  Values among which a payload cannot be measured are left as they are.
Of other values the limit leaves everything that is no payload, zeros to the number of its bytes in
place of each payload that exceeds it, and the other payloads under the policy that keeps them;
there is nothing else that it might leave.  Of data it changes the parts and nothing beside them.

If payloads are measured by their bytes, no payload that is left exceeds the limit.  So a second
pass changes nothing if the policy keeps what does not exceed it. -/
theorem PayloadLimit.run_leaves (limit : PayloadLimit) (values : List Value) :
    (limit.MeasurementFails values → limit.run values = values) ∧
    (¬ limit.MeasurementFails values →
      ∀ left, limit.Leaves 0 values left ↔ left = limit.run values) ∧
    (∀ data other : AuditData, other = data.limitPayloads limit.run ↔
      other.withoutParts = data.withoutParts ∧ other.parts = limit.run data.parts) ∧
    (∀ id, (AuditData.custom id).limitPayloads limit.run = .custom id) ∧
    (limit.sizer = .counting →
      (∀ value ∈ limit.run values, ∀ payload, value.payload? = some payload →
        payload.length ≤ limit.limit) ∧
      (limit.policy = .passThrough → limit.run (limit.run values) = limit.run values)) := by
  refine ⟨run_of_measurementFails, fun measures left ↦ leaves_iff_eq_run measures, ?_, ?_, ?_⟩
  · intro data other
    exact AuditData.eq_limitPayloads_iff
  · intro id
    rfl
  · intro counting
    refine ⟨?_, fun passes ↦ run_run counting passes values⟩
    intro value value_mem payload payload_eq
    exact (measures_of_counting counting values).length_payload_le value_mem payload_eq

end AuditTrail

import Mathlib
import AuditTrail.Capture.MemorySink

/-!
# Records that are stored by many at once

Any number of threads write to a store of records, wait for a number of records, or look at what
there is.  A write stores its record and counts it in a second step, and who waits sees that enough
records have been counted and reads them in a second step.  Between the two steps of a call all
other calls may go on.

The list of the records and the counter are therefore not in step with each other, and no call alone
says how they are related.  What relates them are the writes that are between their two steps: the
counter lags behind the list by their number.  So it never runs ahead, whoever has seen it reads at
least as many records, and it has caught up as soon as no write is under way.
-/

namespace AuditTrail.MemorySink

/-! ## Calls -/

/-- What a thread wants of a store. -/
inductive Use where
  | write (record : AuditRecord)
  /-- To have the records when this many have been counted. -/
  | await (n : Nat)
  | read
  | size
  deriving DecidableEq, Repr

/-- What a call returns. -/
inductive Answer where
  | done
  | records (snapshot : List AuditRecord)
  | size (n : Nat)
  deriving DecidableEq, Repr

/-- How far a call has come. -/
inductive Stage where
  | begun
  /-- A write has stored its record, or somebody who waits has seen that enough are counted. -/
  | halfway
  | returned (answer : Answer)
  deriving DecidableEq, Repr

/-- A call of a thread. -/
structure Call where
  use : Use
  stage : Stage := .begun
  deriving DecidableEq, Repr

namespace Call

/-- The next step of a call.  Who waits in vain stays where it is. -/
def step (call : Call) (sink : MemorySink) : Call × MemorySink :=
  match call.use, call.stage with
  | .write record, .begun => ({ call with stage := .halfway }, sink.store record)
  | .write _, .halfway => ({ call with stage := .returned .done }, sink.count)
  | .await n, .begun =>
    if n ≤ sink.size then ({ call with stage := .halfway }, sink) else (call, sink)
  | .await _, .halfway | .read, .begun =>
    ({ call with stage := .returned (.records sink.records) }, sink)
  | .size, .begun => ({ call with stage := .returned (.size sink.size) }, sink)
  | _, _ => (call, sink)

/-- The record that a call has stored. -/
def stored? (call : Call) : Option AuditRecord :=
  match call.use, call.stage with
  | .write _, .begun => none
  | .write record, _ => some record
  | _, _ => none

/-- The call is a write that has stored its record and has not counted it. -/
def isUncounted (call : Call) : Bool :=
  call matches ⟨.write _, .halfway⟩

theorem exists_of_isUncounted {call : Call} (uncounted : call.isUncounted = true) :
    ∃ record, call = ⟨.write record, .halfway⟩ := by
  obtain ⟨use, stage⟩ := call
  cases use with
  | write record =>
    cases stage with
    | halfway => exact ⟨record, rfl⟩
    | begun | returned => exact absurd uncounted Bool.false_ne_true
  | await | read | size => exact absurd uncounted Bool.false_ne_true

/-- What some calls have stored is what one of them has and what the others have. -/
theorem stored_middle {first rest : List Call} {call : Call} :
    ((first ++ call :: rest).filterMap stored?).Perm
      (call.stored?.toList ++ (first ++ rest).filterMap stored?) := by
  have in_front : ((first ++ call :: rest).filterMap stored?).Perm
      ((call :: (first ++ rest)).filterMap stored?) := List.perm_middle.filterMap stored?
  rw [List.filterMap_cons] at in_front
  cases stored_eq : call.stored? with
  | none | some => rwa [stored_eq] at in_front

theorem uncounted_middle {first rest : List Call} {call : Call} :
    (first ++ call :: rest).countP isUncounted =
      [call].countP isUncounted + (first ++ rest).countP isUncounted := by
  rw [List.perm_middle.countP_eq, ← List.singleton_append, List.countP_append]

/-- The two steps of a write in a row are a whole write. -/
theorem step_step_write (record : AuditRecord) (sink : MemorySink) :
    let once := step ⟨.write record, .begun⟩ sink
    once.1.step once.2 = (⟨.write record, .returned .done⟩, sink.write record) := rfl

theorem step_await_of_le {n : Nat} {sink : MemorySink} (enough : n ≤ sink.size) :
    step ⟨.await n, .begun⟩ sink = (⟨.await n, .halfway⟩, sink) :=
  if_pos enough

theorem step_await_of_not_le {n : Nat} {sink : MemorySink} (few : ¬ n ≤ sink.size) :
    step ⟨.await n, .begun⟩ sink = (⟨.await n, .begun⟩, sink) :=
  if_neg few

/-- The two steps of waiting in a row give the records if enough of them are counted. -/
theorem step_step_await (n : Nat) (sink : MemorySink) :
    let once := step ⟨.await n, .begun⟩ sink
    (once.1.step once.2).1.stage =
      (sink.await? n).elim .begun fun snapshot ↦ .returned (.records snapshot) := by
  intro once
  by_cases enough : n ≤ sink.size
  · have once_eq : once = _ := step_await_of_le enough
    rw [once_eq, await?, if_pos (show n ≤ sink.counted from enough)]
    rfl
  · have once_eq : once = _ := step_await_of_not_le enough
    rw [once_eq, step_await_of_not_le enough, await?,
      if_neg (show ¬ n ≤ sink.counted from enough)]
    rfl

/-- What the next step of a call can be: one of the two steps of a write or of waiting, a look at
the records or at their number, or nothing. -/
inductive Move (sink : MemorySink) : Call → Call → MemorySink → Prop
  | store {record : AuditRecord} :
    Move sink ⟨.write record, .begun⟩ ⟨.write record, .halfway⟩ (sink.store record)
  | count {record : AuditRecord} :
    Move sink ⟨.write record, .halfway⟩ ⟨.write record, .returned .done⟩ sink.count
  | see {n : Nat} (enough : n ≤ sink.size) :
    Move sink ⟨.await n, .begun⟩ ⟨.await n, .halfway⟩ sink
  | obtain {n : Nat} :
    Move sink ⟨.await n, .halfway⟩ ⟨.await n, .returned (.records sink.records)⟩ sink
  | read : Move sink ⟨.read, .begun⟩ ⟨.read, .returned (.records sink.records)⟩ sink
  | size : Move sink ⟨.size, .begun⟩ ⟨.size, .returned (.size sink.size)⟩ sink
  | rest {call : Call} : Move sink call call sink

/-- A step is one of these moves. -/
theorem move_step (call : Call) (sink : MemorySink) :
    Move sink call (call.step sink).1 (call.step sink).2 := by
  obtain ⟨use, stage⟩ := call
  cases use with
  | write record =>
    cases stage with
    | begun => exact .store
    | halfway => exact .count
    | returned => exact .rest
  | await n =>
    cases stage with
    | begun =>
      by_cases enough : n ≤ sink.size
      · rw [step_await_of_le enough]
        exact .see enough
      · rw [step_await_of_not_le enough]
        exact .rest
    | halfway => exact .obtain
    | returned => exact .rest
  | read =>
    cases stage with
    | begun => exact .read
    | halfway | returned => exact .rest
  | size =>
    cases stage with
    | begun => exact .size
    | halfway | returned => exact .rest

/-- What a call has seen and what it has returned is right of a store: who waits and goes on has
seen that enough are counted, a snapshot is a first part of the records and for somebody who waited
a long enough one, and a size is at most the number of those that are counted. -/
def IsRight (sink : MemorySink) (call : Call) : Prop :=
  match call.use, call.stage with
  | .await n, .halfway => n ≤ sink.size
  | .await n, .returned (.records snapshot) => n ≤ snapshot.length ∧ snapshot <+: sink.records
  | .read, .returned (.records snapshot) => snapshot <+: sink.records
  | .size, .returned (.size n) => n ≤ sink.size
  | _, _ => True

/-- Whatever a call has been told stays right while records are added and counted. -/
theorem IsRight.mono {sink sink' : MemorySink} {call : Call} (right : call.IsRight sink)
    (records : sink.records <+: sink'.records) (size : sink.size ≤ sink'.size) :
    call.IsRight sink' := by
  obtain ⟨use, stage⟩ := call
  cases use with
  | write => trivial
  | await n =>
    cases stage with
    | begun => trivial
    | halfway => exact Nat.le_trans right size
    | returned answer =>
      cases answer with
      | records => exact ⟨right.1, right.2.trans records⟩
      | done | size => trivial
  | read =>
    cases stage with
    | begun | halfway => trivial
    | returned answer =>
      cases answer with
      | records => exact List.IsPrefix.trans right records
      | done | size => trivial
  | size =>
    cases stage with
    | begun | halfway => trivial
    | returned answer =>
      cases answer with
      | size => exact Nat.le_trans right size
      | done | records => trivial

namespace Move

variable {sink sink' : MemorySink} {call call' : Call}

/-- A move adds to the store what the call has stored with it. -/
theorem exists_added (move : Move sink call call' sink') :
    ∃ added, sink'.records = sink.records ++ added ∧
      call'.stored?.toList = call.stored?.toList ++ added := by
  cases move with
  | store => exact ⟨[_], rfl, rfl⟩
  | count | see | obtain | read | size | rest =>
    exact ⟨[], (List.append_nil _).symm, (List.append_nil _).symm⟩

/-- A move lets the counter fall behind by one if it makes the call uncounted, and makes up for it
if the call was. -/
theorem size_add (move : Move sink call call' sink') :
    sink'.size + [call'].countP isUncounted + sink.records.length =
      sink.size + [call].countP isUncounted + sink'.records.length := by
  cases move with
  | @store record =>
    have length_eq : (sink.store record).records.length = sink.records.length + 1 :=
      List.length_append
    rw [length_eq]
    change sink.size + 1 + _ = sink.size + 0 + _
    omega
  | count => rfl
  | see | obtain | read | size | rest => rfl

theorem use_eq (move : Move sink call call' sink') : call'.use = call.use := by
  cases move <;> rfl

theorem size_le (move : Move sink call call' sink') : sink.size ≤ sink'.size := by
  cases move with
  | count => exact Nat.le_succ sink.counted
  | store | see | obtain | read | size | rest => exact Nat.le_refl _

/-- Where no record has been counted before it was stored, a call is told what is right. -/
theorem isRight (move : Move sink call call' sink') (right : call.IsRight sink)
    (lags : sink.size ≤ sink.records.length) : call'.IsRight sink' := by
  cases move with
  | store | count => trivial
  | see enough => exact enough
  | obtain => exact ⟨Nat.le_trans right lags, List.prefix_refl _⟩
  | read => exact List.prefix_refl sink.records
  | size => exact Nat.le_refl sink.size
  | rest => exact right

end Move

end Call

/-! ## Interleavings -/

/-- A store and all calls that are ever made, of which some may not have begun. -/
structure Shared where
  sink : MemorySink := .empty
  calls : List Call
  deriving DecidableEq, Repr

namespace Shared

/-- The store without records, and calls that have done nothing. -/
def start (uses : List Use) : Shared where
  calls := uses.map fun use ↦ { use }

/-- The call with a number makes a step. -/
def act (s : Shared) (number : Nat) : Shared :=
  match s.calls[number]? with
  | some call =>
    let (call, sink) := call.step s.sink
    { sink, calls := s.calls.set number call }
  | none => s

/-- Calls make steps in some order. -/
def run (schedule : List Nat) (s : Shared) : Shared :=
  schedule.foldl act s

/-- What a step of a call can do: nothing, if there is no such call, or a move of one call among the
others. -/
theorem act_cases (s : Shared) (number : Nat) :
    s.act number = s ∨ ∃ first rest call call' sink', s.calls = first ++ call :: rest ∧
      s.act number = ⟨sink', first ++ call' :: rest⟩ ∧ Call.Move s.sink call call' sink' := by
  cases call_eq : s.calls[number]? with
  | none => exact .inl (by rw [act, call_eq])
  | some call =>
    obtain ⟨bound, get_eq⟩ := List.getElem?_eq_some_iff.mp call_eq
    have calls_eq : s.calls = s.calls.take number ++ call :: s.calls.drop (number + 1) := by
      rw [← get_eq, List.getElem_cons_drop, List.take_append_drop]
    have act_eq : s.act number =
        ⟨(call.step s.sink).2, s.calls.set number (call.step s.sink).1⟩ := by
      rw [act, call_eq]
    rw [List.set_eq_take_append_cons_drop, if_pos bound] at act_eq
    exact .inr ⟨_, _, call, _, _, calls_eq, act_eq, call.move_step s.sink⟩

/-- The calls stay the same ones. -/
theorem uses_act (s : Shared) (number : Nat) :
    (s.act number).calls.map (·.use) = s.calls.map (·.use) := by
  obtain act_eq | ⟨first, rest, call, call', sink', calls_eq, act_eq, move⟩ := s.act_cases number
  · rw [act_eq]
  · rw [act_eq, calls_eq]
    change (first ++ call' :: rest).map (·.use) = _
    rw [List.map_append, List.map_cons, move.use_eq, ← List.map_cons, ← List.map_append]

theorem uses_run (s : Shared) (schedule : List Nat) :
    (s.run schedule).calls.map (·.use) = s.calls.map (·.use) := by
  induction schedule generalizing s with
  | nil => rfl
  | cons number rest ih => exact (ih (s.act number)).trans (s.uses_act number)

/-- What holds between the list of the records, the counter and the calls at all times. -/
structure IsSound (s : Shared) : Prop where
  /-- The records are those of the writes that have stored theirs. -/
  stored : s.sink.records.Perm (s.calls.filterMap Call.stored?)
  /-- The counter lags behind by the writes that are between their steps. -/
  counted : s.sink.size + s.calls.countP Call.isUncounted = s.sink.records.length
  right : ∀ call ∈ s.calls, call.IsRight s.sink

theorem isSound_start (uses : List Use) : (start uses).IsSound := by
  have stored_eq : (start uses).calls.filterMap Call.stored? = [] := by
    rw [start, List.filterMap_map]
    refine List.filterMap_eq_nil_iff.mpr fun use _ ↦ ?_
    cases use <;> rfl
  have uncounted_eq : (start uses).calls.countP Call.isUncounted = 0 := by
    rw [start, List.countP_map]
    refine List.countP_eq_zero.mpr fun use _ ↦ ?_
    cases use <;> exact Bool.false_ne_true
  refine ⟨?_, ?_, fun call call_mem ↦ ?_⟩
  · rw [stored_eq]
    exact .refl []
  · rw [uncounted_eq]
    rfl
  · obtain ⟨use, -, rfl⟩ := List.mem_map.mp call_mem
    cases use <;> trivial

namespace IsSound

variable {s : Shared}

/-- The counter never runs ahead. -/
theorem size_le (sound : s.IsSound) : s.sink.size ≤ s.sink.records.length :=
  sound.counted ▸ Nat.le_add_right _ _

/-- A move of one of the calls keeps a store sound. -/
theorem move {sink sink' : MemorySink} {first rest : List Call} {call call' : Call}
    (sound : IsSound ⟨sink, first ++ call :: rest⟩) (move : Call.Move sink call call' sink') :
    IsSound ⟨sink', first ++ call' :: rest⟩ := by
  obtain ⟨added, records_eq, stored_eq⟩ := move.exists_added
  -- The calls are compared with the one that moves in front, where its part is seen apart.
  refine ⟨?_, ?_, fun other other_mem ↦ ?_⟩
  · have stored_before : sink.records.Perm _ := sound.stored.trans Call.stored_middle
    refine List.Perm.trans ?_ Call.stored_middle.symm
    change sink'.records.Perm _
    rw [records_eq, stored_eq, List.append_assoc]
    exact (stored_before.append_right added).trans
      ((List.append_assoc ..).symm ▸ List.perm_append_comm.append_left _)
  · have counted_before : sink.size + _ = sink.records.length := sound.counted
    have size_add := move.size_add
    change sink'.size + _ = sink'.records.length
    rw [Call.uncounted_middle] at counted_before ⊢
    omega
  · have other_cases : other = call' ∨ other ∈ first ++ rest :=
      List.mem_cons.mp (List.perm_middle.mem_iff.mp other_mem)
    obtain rfl | other_mem := other_cases
    · exact move.isRight (sound.right call List.mem_append_cons_self) sound.size_le
    · have other_right : other.IsRight sink :=
        sound.right other (List.perm_middle.mem_iff.mpr (List.mem_cons_of_mem call other_mem))
      exact other_right.mono ⟨added, records_eq.symm⟩ move.size_le

/-- A step of any call keeps a store sound. -/
theorem act (sound : s.IsSound) (number : Nat) : (s.act number).IsSound := by
  obtain act_eq | ⟨first, rest, call, call', sink', calls_eq, act_eq, move⟩ := s.act_cases number
  · rw [act_eq]
    exact sound
  · obtain ⟨sink, calls⟩ := s
    rw [act_eq]
    rw [show calls = first ++ call :: rest from calls_eq] at sound
    exact sound.move move

/-- Whatever the order of the steps is, a sound store stays sound. -/
theorem run (sound : s.IsSound) (schedule : List Nat) : (s.run schedule).IsSound := by
  induction schedule generalizing s with
  | nil => exact sound
  | cons number rest ih => exact ih (sound.act number)

end IsSound

end Shared

/-- **However calls go on between the steps of each other, the counter keeps to the records.**  Any
number of calls make steps in any order on a store that is empty at first; a thread that makes
several calls has them make their steps one after the other, which is one of these orders.  Then
always

* at most as many records are counted as there are,
* the records are those of the writes that have stored theirs, each stored by its write once, and
  among these are all writes that have returned,
* a snapshot that is returned to somebody who waits for a number of records has so many, and is a
  first part of the records, as is a snapshot that is returned to somebody who just reads,
* a number that is returned to somebody who asks for it is at most the number of those counted,
* the counter and the records agree if and only if no write is between its two steps. -/
theorem interleaving_keeps_count (uses : List Use) (schedule : List Nat) :
    let s := (Shared.start uses).run schedule
    s.calls.map (·.use) = uses ∧
      s.sink.size ≤ s.sink.records.length ∧
      s.sink.records.Perm (s.calls.filterMap Call.stored?) ∧
      (∀ record answer, ⟨.write record, .returned answer⟩ ∈ s.calls → record ∈ s.sink.records) ∧
      (∀ n snapshot, ⟨.await n, .returned (.records snapshot)⟩ ∈ s.calls →
        n ≤ snapshot.length ∧ snapshot <+: s.sink.records) ∧
      (∀ snapshot, ⟨.read, .returned (.records snapshot)⟩ ∈ s.calls →
        snapshot <+: s.sink.records) ∧
      (∀ n, ⟨.size, .returned (.size n)⟩ ∈ s.calls → n ≤ s.sink.size) ∧
      (s.sink.size = s.sink.records.length ↔
        ∀ record, ⟨.write record, .halfway⟩ ∉ s.calls) := by
  intro s
  have sound : s.IsSound := (Shared.isSound_start uses).run schedule
  refine ⟨?_, sound.size_le, sound.stored, fun record answer call_mem ↦ ?_,
    fun n snapshot call_mem ↦ sound.right _ call_mem,
    fun snapshot call_mem ↦ sound.right _ call_mem, fun n call_mem ↦ sound.right _ call_mem, ?_⟩
  · rw [Shared.uses_run, Shared.start, List.map_map]
    exact List.map_id uses
  · exact sound.stored.mem_iff.mpr (List.mem_filterMap.mpr ⟨_, call_mem, rfl⟩)
  · have none_iff : s.calls.countP Call.isUncounted = 0 ↔
        ∀ record, ⟨.write record, .halfway⟩ ∉ s.calls := by
      rw [List.countP_eq_zero]
      constructor
      · exact fun all_counted record call_mem ↦ all_counted _ call_mem rfl
      · intro no_write call call_mem uncounted
        obtain ⟨record, rfl⟩ := Call.exists_of_isUncounted uncounted
        exact no_write record call_mem
    rw [← none_iff, ← sound.counted]
    exact left_eq_add

/-- Somebody who waits for one record gets both of those that have been stored, while the one who
asks for the number still hears of the one that has been counted. -/
example (a b : AuditRecord) :
    ((Shared.start [.write a, .write b, .await 1, .size]).run [0, 1, 1, 2, 3, 2]).calls =
      [⟨.write a, .halfway⟩, ⟨.write b, .returned .done⟩, ⟨.await 1, .returned (.records [a, b])⟩,
        ⟨.size, .returned (.size 1)⟩] := rfl

end AuditTrail.MemorySink

import Mathlib
import AuditTrail.Config.Basic
import AuditTrail.Proofs.Dispatch.History

/-!
# The fill level of the queues

How full a dispatcher is follows from two sums over its queues, of what they can hold and of what
still fits.  Whatever callers and workers do, and also when the workers are stopped, there are as
many queues as at the start, each has the capacity that it started with, and none holds more than
that.  The level that such sums give lies between zero and one, and it reaches these only when all
queues are empty or all are full.

The sums are formed in machine words, though, and a valid configuration bounds neither the number of
the queues nor their capacity.  Where all queues together have more room than a word can count,
there is no level at all if the sums are checked.  If they are not, they begin again at zero, and
the level that they give may be any number.  This is the only way in which it goes wrong, and it
depends on the configuration alone.
-/

namespace AuditTrail

variable {α : Type}

/-! ## Queues of a capacity -/

namespace BoundedQueue

/-- The greatest capacity with which a queue can be made. -/
def maxCapacity : Nat :=
  2 ^ 61 - 1

/-- The queue has the capacity and holds no more items. -/
structure IsWithin (capacity : Nat) (queue : BoundedQueue α) : Prop where
  capacity_eq : queue.capacity = capacity
  length_le : queue.items.length ≤ capacity

theorem isWithin_empty (capacity : Nat) : (empty capacity : BoundedQueue α).IsWithin capacity :=
  ⟨rfl, Nat.zero_le capacity⟩

theorem capacity_offer {a : α} {queue after : BoundedQueue α} (h : queue.offer a = .ok after) :
    after.capacity = queue.capacity := by
  unfold offer at h
  split at h
  · cases h
  · split at h <;> cases h
    rfl

namespace IsWithin

variable {capacity : Nat} {queue after : BoundedQueue α} (within : queue.IsWithin capacity)

include within

/-- Free slots and items make up the capacity. -/
theorem free_add_length : queue.free + queue.items.length = capacity := by
  rw [free, within.capacity_eq, Nat.sub_add_cancel within.length_le]

theorem offer {a : α} (offer_eq : queue.offer a = .ok after) : after.IsWithin capacity := by
  have capacity_eq := (capacity_offer offer_eq).trans within.capacity_eq
  exact ⟨capacity_eq, (length_items_offer offer_eq).trans_eq capacity_eq⟩

theorem enter {a : α} (enter_eq : queue.enter a = .ok after) : after.IsWithin capacity := by
  unfold BoundedQueue.enter at enter_eq
  split at enter_eq
  · cases enter_eq
    exact ⟨within.capacity_eq, within.length_le⟩
  · exact within.offer enter_eq

/-- For the item that is taken, at most one enters that has waited. -/
theorem taken {a : α} {items : List α} (items_eq : queue.items = a :: items) :
    (queue.taken items).IsWithin capacity where
  capacity_eq := within.capacity_eq
  length_le := by
    have length_le := within.length_le
    rw [items_eq, List.length_cons] at length_le
    simp only [BoundedQueue.taken, List.length_append, List.length_take]
    omega

theorem close : queue.close.IsWithin capacity :=
  ⟨within.capacity_eq, Nat.zero_le capacity⟩

end IsWithin

end BoundedQueue

/-! ## Dispatchers with such queues -/

namespace Worker.Move

variable {process? : α → Option Processing} {worker after : Worker α} {sink sink' : Sink}
  {effect : Effect α} (move : Move process? worker sink effect after sink')

include move

theorem isWithin {capacity : Nat} (within : worker.queue.IsWithin capacity) :
    after.queue.IsWithin capacity := by
  cases move with
  | write | finish | rest => exact within
  | acknowledge task_eq items_eq | start task_eq items_eq | breakOff task_eq items_eq =>
    exact within.taken items_eq

end Worker.Move

namespace Dispatcher

/-- There are so many queues, all of the capacity, and none of them holds more items. -/
structure IsWithin (number capacity : Nat) (d : Dispatcher α) : Prop where
  length_eq : d.workers.length = number
  queue : ∀ worker ∈ d.workers, worker.queue.IsWithin capacity

theorem isWithin_start (process? : α → Option Processing) (hash : QueueKey → Nat)
    (workers capacity : Nat) (sink : Sink) :
    (start process? hash workers capacity sink).IsWithin (max workers 1) (max capacity 1) where
  length_eq := List.length_replicate
  queue worker worker_mem := by
    rw [List.eq_of_mem_replicate worker_mem]
    exact BoundedQueue.isWithin_empty (max capacity 1)

namespace IsWithin

variable {number capacity : Nat} {d : Dispatcher α} (within : d.IsWithin number capacity)

include within

theorem setQueue (other : Nat) {queue : BoundedQueue (Job α)}
    (queue_within : queue.IsWithin capacity) :
    (d.setQueue other queue).IsWithin number capacity := by
  refine ⟨(List.length_modify ..).trans within.length_eq, fun worker worker_mem ↦ ?_⟩
  obtain ⟨i, worker_eq⟩ := List.getElem?_of_mem worker_mem
  rw [Dispatcher.setQueue, List.getElem?_modify] at worker_eq
  obtain ⟨before, before_eq, rfl⟩ := Option.map_eq_some_iff.mp worker_eq
  split
  · exact queue_within
  · exact within.queue before (List.mem_of_getElem? before_eq)

theorem withQueue {other : Nat}
    {operation : BoundedQueue (Job α) → Except DispatchError (BoundedQueue (Job α))}
    (operates : ∀ {queue after}, queue.IsWithin capacity → operation queue = .ok after →
      after.IsWithin capacity) :
    ((d.withQueue other operation).toOption.getD d).IsWithin number capacity := by
  rw [Dispatcher.withQueue]
  split
  next worker worker_eq =>
    cases operation_eq : operation worker.queue with
    | error error => exact within
    | ok queue =>
      have before := within.queue worker (List.mem_of_getElem? worker_eq)
      exact within.setQueue other (operates before operation_eq)
  next => exact within

theorem offer (key : QueueKey) (a : α) :
    ((d.offer key a).toOption.getD d).IsWithin number capacity :=
  within.withQueue fun queue_within ↦ queue_within.offer

theorem submit (key : QueueKey) (a : α) : (d.submit key a).1.IsWithin number capacity := by
  have offered := within.offer key a
  rw [Dispatcher.submit]
  split
  next offer_eq =>
    rw [offer_eq] at offered
    exact offered
  next => exact ⟨within.length_eq, within.queue⟩
  next => exact within

theorem enter (key : QueueKey) (a : α) :
    ((d.enter key a).toOption.getD d).IsWithin number capacity :=
  within.withQueue fun queue_within ↦ queue_within.enter

theorem enterMark (id other : Nat) :
    ((d.enterMark id other).toOption.getD d).IsWithin number capacity :=
  within.withQueue fun queue_within ↦ queue_within.enter

theorem step (other : Nat) : (d.step other).1.IsWithin number capacity := by
  rw [Dispatcher.step]
  split
  next worker worker_eq =>
    have move := worker.move_step d.process? other d.sink
    refine ⟨(List.length_set ..).trans within.length_eq, fun after after_mem ↦ ?_⟩
    rcases List.mem_or_eq_of_mem_set after_mem with after_mem | rfl
    · exact within.queue after after_mem
    · exact move.isWithin (within.queue worker (List.mem_of_getElem? worker_eq))
  next => exact within

theorem abandon : d.abandon.IsWithin number capacity := by
  refine ⟨(List.length_map ..).trans within.length_eq, fun after after_mem ↦ ?_⟩
  obtain ⟨worker, worker_mem, rfl⟩ := List.mem_map.mp after_mem
  exact (within.queue worker worker_mem).close

end IsWithin

end Dispatcher

/-! ## Reachable states -/

namespace Dispatch

/-- The states to which callers and workers bring a dispatcher, in any order of what they do, and
those in which its workers have been stopped as well. -/
inductive Reachable (start : Dispatcher Submission) : Dispatcher Submission → Prop
  | start : Reachable start start
  | act {d : Dispatcher Submission} (reachable : Reachable start d) (action : Action) :
    Reachable start (action.apply d)
  | stop {d : Dispatcher Submission} (reachable : Reachable start d) : Reachable start d.abandon

theorem Action.isWithin_apply {number capacity : Nat} {d : Dispatcher Submission}
    (within : d.IsWithin number capacity) (action : Action) :
    (action.apply d).IsWithin number capacity := by
  cases action with
  | submit thread manner submission =>
    cases manner with
    | drops => exact within.submit _ submission
    | tries => exact within.offer _ submission
    | waits => exact within.enter _ submission
  | mark id other => exact within.enterMark id other
  | work other => exact within.step other
  | write record => exact ⟨within.length_eq, within.queue⟩

/-- Queues stay within their capacity. -/
theorem Reachable.isWithin {number capacity : Nat} {start d : Dispatcher Submission}
    (reachable : Reachable start d) (within : start.IsWithin number capacity) :
    d.IsWithin number capacity := by
  induction reachable with
  | start => exact within
  | act _ action ih => exact action.isWithin_apply ih
  | stop _ ih => exact ih.abandon

end Dispatch

/-! ## The sums -/

namespace Overflow

/-- Some more numbers are added to a total at once, unless the sum is checked and does not fit. -/
theorem foldlM_add (overflow : Overflow) (total : UInt64) (ns : List Nat) :
    ns.foldlM overflow.add total =
      if overflow = wraps ∨ total.toNat + ns.sum < 2 ^ 64 then some (total + .ofNat ns.sum)
      else none := by
  induction ns generalizing total with
  | nil =>
    rw [List.foldlM_nil, List.sum_nil, Nat.add_zero, if_pos (.inr total.toNat_lt)]
    exact congrArg some (UInt64.add_zero total).symm
  | cons n ns ih =>
    rw [List.foldlM_cons, List.sum_cons, UInt64.ofNat_add, ← UInt64.add_assoc]
    cases overflow with
    | wraps =>
      rw [add, Option.bind_eq_bind, Option.bind_some, ih, if_pos (.inl rfl), if_pos (.inl rfl)]
    | breaksOff =>
      by_cases fits : total.toNat + n < UInt64.size
      · have total_eq : (total + .ofNat n).toNat = total.toNat + n := by
          rw [UInt64.toNat_add, UInt64.toNat_ofNat', Nat.add_mod_mod, Nat.mod_eq_of_lt fits]
        rw [add, if_pos fits, Option.bind_eq_bind, Option.bind_some, ih, total_eq, Nat.add_assoc]
      · have more_lt : ¬ (breaksOff = wraps ∨ total.toNat + (n + ns.sum) < 2 ^ 64) := by
          simp only [UInt64.size] at fits
          simp only [reduceCtorEq, false_or]
          omega
        rw [add, if_neg fits, if_neg more_lt]
        rfl

/-- A sum is what a word can hold of it, and breaks off if it is checked and does not fit. -/
theorem sum_eq (overflow : Overflow) (ns : List Nat) :
    overflow.sum ns =
      if overflow = wraps ∨ ns.sum < 2 ^ 64 then some (.ofNat ns.sum) else none := by
  rw [sum, foldlM_add, UInt64.zero_add, UInt64.toNat_zero, Nat.zero_add]

end Overflow

namespace Dispatcher

/-- How many items all queues together can hold, whatever a machine word can count. -/
def slots (d : Dispatcher α) : Nat :=
  (d.workers.map (·.queue.capacity)).sum

/-- How many more items fit into all queues together, whatever a machine word can count. -/
def freeSlots (d : Dispatcher α) : Nat :=
  (d.workers.map (·.queue.free)).sum

theorem capacity_eq (overflow : Overflow) (d : Dispatcher α) : d.capacity overflow =
    if overflow = .wraps ∨ d.slots < 2 ^ 64 then some (.ofNat d.slots) else none :=
  overflow.sum_eq _

theorem free_eq (overflow : Overflow) (d : Dispatcher α) : d.free overflow =
    if overflow = .wraps ∨ d.freeSlots < 2 ^ 64 then some (.ofNat d.freeSlots) else none :=
  overflow.sum_eq _

/-- The exact value of the fill level that two sums give. -/
def level (capacity free : UInt64) : ℚ :=
  1 - free.toNat / capacity.toNat

/-- Two sums in machine words are those of the queues, and the level that they give says how full
they are: it lies between zero and one, and is zero if all slots are free and one if none is. -/
structure IsFill (capacity free : UInt64) (d : Dispatcher α) : Prop where
  capacity_eq : capacity.toNat = d.slots
  free_eq : free.toNat = d.freeSlots
  capacity_pos : 0 < capacity.toNat
  free_le : free.toNat ≤ capacity.toNat
  level_nonneg : 0 ≤ level capacity free
  level_le_one : level capacity free ≤ 1
  level_eq_zero_iff : level capacity free = 0 ↔ ∀ worker ∈ d.workers, worker.queue.items = []
  level_eq_one_iff : level capacity free = 1 ↔
    ∀ worker ∈ d.workers, worker.queue.items.length = worker.queue.capacity

/-- Both sums are formed, and they say how full the queues are. -/
def MeasuresFill (overflow : Overflow) (d : Dispatcher α) : Prop :=
  ∃ capacity free, d.capacity overflow = some capacity ∧ d.free overflow = some free ∧
    d.IsFill capacity free

/-- With sums that are those of the queues, a machine word can count all slots. -/
theorem MeasuresFill.slots_lt {overflow : Overflow} {d : Dispatcher α}
    (measures : d.MeasuresFill overflow) : d.slots < 2 ^ 64 := by
  obtain ⟨capacity, free, -, -, fill⟩ := measures
  exact fill.capacity_eq ▸ capacity.toNat_lt

namespace IsWithin

variable {number capacity : Nat} {d : Dispatcher α} (within : d.IsWithin number capacity)

include within

theorem slots_eq : d.slots = number * capacity := by
  have capacity_eq (n : Nat) (n_mem : n ∈ d.workers.map (·.queue.capacity)) : n = capacity := by
    obtain ⟨worker, worker_mem, rfl⟩ := List.mem_map.mp n_mem
    exact (within.queue worker worker_mem).capacity_eq
  rw [slots, List.sum_eq_card_nsmul _ capacity capacity_eq, List.length_map, within.length_eq,
    smul_eq_mul]

/-- Free slots and items make up all slots. -/
theorem freeSlots_add : d.freeSlots + (d.workers.map (·.queue.items.length)).sum = d.slots := by
  rw [freeSlots, slots, ← List.sum_map_add]
  refine congrArg List.sum (List.map_congr_left fun worker worker_mem ↦ ?_)
  have queue_within := within.queue worker worker_mem
  exact queue_within.free_add_length.trans queue_within.capacity_eq.symm

theorem freeSlots_le : d.freeSlots ≤ d.slots :=
  Nat.le.intro within.freeSlots_add

/-- All slots are free if and only if all queues are empty. -/
theorem freeSlots_eq_slots_iff :
    d.freeSlots = d.slots ↔ ∀ worker ∈ d.workers, worker.queue.items = [] := by
  rw [← within.freeSlots_add, eq_comm, Nat.add_eq_left, List.sum_eq_zero_iff, List.forall_mem_map]
  exact forall₂_congr fun worker _ ↦ List.length_eq_zero_iff

/-- No slot is free if and only if all queues are full. -/
theorem freeSlots_eq_zero_iff :
    d.freeSlots = 0 ↔
      ∀ worker ∈ d.workers, worker.queue.items.length = worker.queue.capacity := by
  rw [freeSlots, List.sum_eq_zero_iff, List.forall_mem_map]
  refine forall₂_congr fun worker worker_mem ↦ ?_
  have queue_within := within.queue worker worker_mem
  have free_add := queue_within.free_add_length
  rw [queue_within.capacity_eq]
  omega

/-- If there is a slot, words that are the sums of the queues say how full they are. -/
theorem isFill {capacity free : UInt64} (slots_pos : 0 < d.slots)
    (capacity_eq : capacity.toNat = d.slots) (free_eq : free.toNat = d.freeSlots) :
    d.IsFill capacity free := by
  have free_le := within.freeSlots_le
  have level_eq : level capacity free = 1 - (d.freeSlots : ℚ) / d.slots := by
    rw [level, free_eq, capacity_eq]
  have slots_pos' : (0 : ℚ) < d.slots := Nat.cast_pos.mpr slots_pos
  have quotient_nonneg : (0 : ℚ) ≤ d.freeSlots / d.slots := by positivity
  have quotient_le_one : (d.freeSlots : ℚ) / d.slots ≤ 1 :=
    (div_le_one slots_pos').mpr (Nat.cast_le.mpr free_le)
  refine ⟨capacity_eq, free_eq, slots_pos.trans_eq capacity_eq.symm,
    (free_eq.trans_le free_le).trans_eq capacity_eq.symm, ?_, ?_, ?_, ?_⟩
  · rw [level_eq]
    exact sub_nonneg.mpr quotient_le_one
  · rw [level_eq]
    exact sub_le_self 1 quotient_nonneg
  · rw [level_eq, sub_eq_zero, eq_comm, div_eq_one_iff_eq slots_pos'.ne', Nat.cast_inj]
    exact within.freeSlots_eq_slots_iff
  · rw [level_eq, sub_eq_self, div_eq_zero_iff, or_iff_left slots_pos'.ne', Nat.cast_eq_zero]
    exact within.freeSlots_eq_zero_iff

/-- If there is a slot and the slots can be counted in a machine word, so can the free ones, and the
level is right. -/
theorem measuresFill (slots_pos : 0 < d.slots) (slots_lt : d.slots < 2 ^ 64)
    (overflow : Overflow) : d.MeasuresFill overflow := by
  have free_lt : d.freeSlots < 2 ^ 64 := within.freeSlots_le.trans_lt slots_lt
  refine ⟨.ofNat d.slots, .ofNat d.freeSlots, ?_, ?_, within.isFill slots_pos
    (UInt64.toNat_ofNat_of_lt slots_lt) (UInt64.toNat_ofNat_of_lt free_lt)⟩
  · rw [d.capacity_eq, if_pos (.inr slots_lt)]
  · rw [d.free_eq, if_pos (.inr free_lt)]

/-- There is no level if the sums are checked and a machine word cannot count all slots, and only
then. -/
theorem usage_eq_none_iff (overflow : Overflow) :
    d.usage overflow = none ↔ overflow = .breaksOff ∧ 2 ^ 64 ≤ d.slots := by
  rw [usage, d.capacity_eq, d.free_eq]
  by_cases formed : overflow = .wraps ∨ d.slots < 2 ^ 64
  · rw [if_pos formed, if_pos (formed.imp_right within.freeSlots_le.trans_lt)]
    refine iff_of_false (Option.some_ne_none _) fun ⟨breaks, slots_le⟩ ↦ ?_
    exact formed.elim (fun wraps ↦ nomatch breaks.symm.trans wraps) slots_le.not_gt
  · rw [if_neg formed]
    rw [not_or, not_lt] at formed
    cases overflow with
    | breaksOff => exact iff_of_true rfl ⟨rfl, formed.2⟩
    | wraps => exact absurd rfl formed.1

end IsWithin

end Dispatcher

/-! ## Valid configurations -/

theorem ConfigFlaw.ofNumber_eq_none_iff {name : String} {n : Nat} :
    ofNumber name n = none ↔ 0 < n := by
  rw [ofNumber, ite_eq_right_iff, Nat.pos_iff_ne_zero]
  exact ⟨fun no_flaw zero ↦ Option.some_ne_none _ (no_flaw zero), fun pos zero ↦ absurd zero pos⟩

/-- In a valid configuration there are workers, and their queues have room. -/
theorem Config.IsValid.dispatcher_pos {config : Config} (valid : config.IsValid) :
    0 < config.dispatcher.workers ∧ 0 < config.dispatcher.queueCapacity := by
  simp only [IsValid, flaw?, Option.orElse_eq_orElse, Option.orElse_eq_or, Option.or_eq_none_iff,
    ConfigFlaw.ofNumber_eq_none_iff] at valid
  exact ⟨valid.2.2.2.2.1, valid.2.2.2.2.2.1⟩

namespace Dispatch

/-- **The fill level is right if and only if a machine word can count all slots.**  In every state
of a dispatcher that has been started with a valid configuration, there are slots, no more of them
are free than there are, all are free exactly if all queues are empty, and none is exactly if all
are full.  The sums in machine words say so, and give a level from zero to one that is zero in the
one case and one in the other, exactly if the number of the workers times the capacity of a queue
lies below the size of a word, be the sums checked or not.  Otherwise checked sums break off, and
give no level; unchecked ones always give one. -/
theorem fillLevel_right_iff {config : Config} (valid : config.IsValid)
    {process? : Submission → Option Processing} {hash : QueueKey → Nat} {sink : Sink}
    {d : Dispatcher Submission}
    (reachable : Reachable (.start process? hash config.dispatcher.workers
      config.dispatcher.queueCapacity sink) d) (overflow : Overflow) :
    0 < d.slots ∧ d.freeSlots ≤ d.slots ∧
      (d.freeSlots = d.slots ↔ ∀ worker ∈ d.workers, worker.queue.items = []) ∧
      (d.freeSlots = 0 ↔
        ∀ worker ∈ d.workers, worker.queue.items.length = worker.queue.capacity) ∧
      (d.MeasuresFill overflow ↔
        config.dispatcher.workers * config.dispatcher.queueCapacity < 2 ^ 64) ∧
      (d.usage overflow = none ↔ overflow = .breaksOff ∧
        2 ^ 64 ≤ config.dispatcher.workers * config.dispatcher.queueCapacity) := by
  obtain ⟨workers_pos, capacity_pos⟩ := valid.dispatcher_pos
  have within := reachable.isWithin (Dispatcher.isWithin_start ..)
  rw [max_eq_left workers_pos, max_eq_left capacity_pos] at within
  have slots_pos : 0 < d.slots := by
    rw [within.slots_eq]
    exact Nat.mul_pos workers_pos capacity_pos
  rw [← within.slots_eq]
  exact ⟨slots_pos, within.freeSlots_le, within.freeSlots_eq_slots_iff,
    within.freeSlots_eq_zero_iff,
    ⟨fun measures ↦ measures.slots_lt, fun slots_lt ↦ within.measuresFill slots_pos slots_lt _⟩,
    within.usage_eq_none_iff overflow⟩

/-- A valid configuration with which a dispatcher can be started: nine queues, which have two slots
more in all than a machine word can count. -/
def wideConfig : Config where
  dispatcher := { workers := 9, queueCapacity := 2049638230412172402 }

/-- The dispatcher of these queues. -/
def wideDispatcher : Dispatcher Submission :=
  .start (fun _ ↦ none) (fun _ ↦ 0) wideConfig.dispatcher.workers
    wideConfig.dispatcher.queueCapacity .accepting

/-- A text is submitted. -/
def textSubmitted : Action :=
  .submit 0 .drops
    ⟨⟨.ofRandom 0, ⟨0, 0⟩, .serviceAudit, "handle", "UsageTest", none⟩, .text "a", .info, none⟩

/-- In a valid dispatcher with too many slots, checked sums break off even while all queues are
empty.  Unchecked ones give a large negative level with three items in the nine queues, and the
float that callers see is that number. -/
theorem wideDispatcher_overflows :
    let busy := [textSubmitted, textSubmitted, textSubmitted].foldl Action.apply wideDispatcher
    wideConfig.IsValid ∧ wideConfig.dispatcher.queueCapacity ≤ BoundedQueue.maxCapacity ∧
      Reachable wideDispatcher busy ∧ wideDispatcher.usage .breaksOff = none ∧
      busy.usage .breaksOff = none ∧ ¬ busy.MeasuresFill .wraps ∧
      busy.capacity .wraps = some 2 ∧ busy.free .wraps = some (.ofNat (2 ^ 64 - 1)) ∧
      Dispatcher.level 2 (.ofNat (2 ^ 64 - 1)) = 1 - (2 ^ 64 - 1) / 2 ∧
      busy.usage .wraps = some (.ofInt (-2 ^ 63)) := by
  intro busy
  have valid : wideConfig.IsValid := by decide +kernel
  have wide : 2 ^ 64 ≤ wideConfig.dispatcher.workers * wideConfig.dispatcher.queueCapacity := by
    decide
  have reachable : Reachable wideDispatcher busy :=
    ((Reachable.start.act textSubmitted).act textSubmitted).act textSubmitted
  obtain ⟨-, -, -, -, -, none_at_start⟩ := fillLevel_right_iff valid .start .breaksOff
  obtain ⟨-, -, -, -, -, none_busy⟩ := fillLevel_right_iff valid reachable .breaksOff
  obtain ⟨-, -, -, -, measures_iff, -⟩ := fillLevel_right_iff valid reachable .wraps
  refine ⟨valid, by decide, reachable, none_at_start.mpr ⟨rfl, wide⟩, none_busy.mpr ⟨rfl, wide⟩,
    mt measures_iff.mp wide.not_gt, by decide +kernel, by decide +kernel, ?_, by decide +kernel⟩
  have free_eq : (UInt64.ofNat (2 ^ 64 - 1)).toNat = 2 ^ 64 - 1 := by decide
  have capacity_eq : (2 : UInt64).toNat = 2 := by decide
  rw [Dispatcher.level, free_eq, capacity_eq]
  norm_num

end Dispatch

end AuditTrail

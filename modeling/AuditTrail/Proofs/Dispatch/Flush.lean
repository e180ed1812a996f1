import AuditTrail.Proofs.Dispatch.Barrier

/-!
# Flushing

A caller who flushes sends one mark to every worker, one worker after the other, and goes on to the
next one only when the mark has entered the queue.  Then the caller awaits the acknowledgements in
the same order.  Meanwhile others submit, write and flush, and the workers make their steps.

Each call has a mark of its own, which nobody has met when the call begins.  So the mark comes
behind everything that had arrived by then, in every queue, and when the call returns all of it is
done.

A call also returns: the flush of a dispatcher is the schedule of one call in which the workers do
all that there is to do.
-/

namespace AuditTrail

/-- The job is a certain mark. -/
def Job.isMark {α : Type} (id : Nat) : Job α → Bool
  | submission _ => false
  | mark other => other == id

namespace Dispatcher

variable {α : Type}

/-- A mark waits for room in the queue of a worker. -/
def holdsBack (id number : Nat) (d : Dispatcher α) : Bool :=
  d.workers[number]?.any fun worker ↦ worker.queue.waiting.any (·.isMark id)

/-- A worker has acknowledged a mark. -/
def acknowledges (id number : Nat) (d : Dispatcher α) : Bool :=
  d.workers[number]?.any (·.acknowledged.contains id)

end Dispatcher

namespace Dispatch

/-! ## Calls -/

/-- How far a caller who flushes has come. -/
inductive FlushPhase where
  /-- The mark for the worker with this number is sent next. -/
  | sending (number : Nat)
  /-- The mark for the worker with this number has to enter the queue. -/
  | entering (number : Nat)
  /-- All marks are in their queues. -/
  | awaiting
  | returned

/-- A call of flush. -/
structure FlushCall where
  /-- What had happened when the call began. -/
  begun : History
  phase : FlushPhase := .sending 0
  /-- The workers whose acknowledgements are still to be awaited, in order. -/
  acks : List Nat := []

/-- The call goes on if it can, with a mark of its own. -/
def FlushCall.poll (id : Nat) (call : FlushCall) (h : History) : FlushCall × History :=
  match call.phase with
  | .sending number =>
    if number < h.dispatcher.workers.length then
      match h.dispatcher.enterMark id number with
      | .ok _ => ({ call with phase := .entering number }, h.act (.mark id number))
      | .error _ => ({ call with phase := .sending (number + 1) }, h)
    else ({ call with phase := .awaiting }, h)
  | .entering number =>
    if h.dispatcher.holdsBack id number then (call, h)
    else ({ call with phase := .sending (number + 1), acks := call.acks ++ [number] }, h)
  | .awaiting =>
    match call.acks with
    | [] => ({ call with phase := .returned }, h)
    | number :: rest =>
      if h.dispatcher.acknowledges id number then ({ call with acks := rest }, h) else (call, h)
  | .returned => (call, h)

/-- A history with the calls of flush that were made in it. -/
structure Flushing where
  history : History
  calls : List FlushCall := []

/-- What can happen next when callers flush. -/
inductive FlushEvent where
  | submit (thread : Nat) (manner : Manner) (submission : Submission)
  /-- A worker makes a step. -/
  | work (number : Nat)
  /-- Somebody writes to the sink past the workers. -/
  | write (record : AuditRecord)
  /-- Somebody begins to flush. -/
  | flush
  /-- The call with a number goes on. -/
  | poll (id : Nat)

namespace Flushing

/-- The history of a dispatcher that has just been started. -/
def start (process? : Submission → Option Processing) (hash : QueueKey → Nat)
    (workers capacity : Nat) (sink : Sink) : Flushing where
  history := .start process? hash workers capacity sink

/-- Something happens that is not about calls of flush. -/
def other (action : Action) (s : Flushing) : Flushing :=
  { s with history := s.history.act action }

/-- An event happens.  The mark of a call is the number of calls before it. -/
def act (s : Flushing) : FlushEvent → Flushing
  | .submit thread manner submission => s.other (.submit thread manner submission)
  | .work number => s.other (.work number)
  | .write record => s.other (.write record)
  | .flush => { s with calls := s.calls ++ [{ begun := s.history }] }
  | .poll id =>
    match s.calls[id]? with
    | some call =>
      let (call, history) := call.poll id s.history
      { history, calls := s.calls.set id call }
    | none => s

/-- Some events happen one after the other. -/
def run (events : List FlushEvent) (s : Flushing) : Flushing :=
  events.foldl act s

theorem run_append (events more : List FlushEvent) (s : Flushing) :
    s.run (events ++ more) = (s.run events).run more :=
  List.foldl_append

end Flushing

/-! ## The invariant of a call -/

/-- The mark for a worker has not yet entered the queue. -/
def FlushPhase.IsBefore : FlushPhase → Nat → Prop
  | sending number, other => number ≤ other
  | entering number, other => number ≤ other
  | _, _ => False

/-- What holds of a call with a mark at all times. -/
structure FlushCall.Sound (route : QueueKey → Nat) (id : Nat) (call : FlushCall) (h : History) :
    Prop where
  arrived : call.begun.arrived ⊆ h.arrived
  behind : h.MarkBehind route id call.begun.arrived
  /-- Every worker is still to be sent the mark, to be awaited, or has acknowledged the mark. -/
  reached : ∀ number < h.dispatcher.workers.length,
    call.phase.IsBefore number ∨ number ∈ call.acks ∨ h.Acknowledged id number
  returned : call.phase = .returned → call.acks = []

/-- The caller sees that a worker has acknowledged the mark exactly if it has. -/
theorem History.acknowledges_iff {h : History} {id number : Nat} :
    h.dispatcher.acknowledges id number = true ↔ h.Acknowledged id number := by
  rw [Dispatcher.acknowledges, Option.any_eq_true, Acknowledged]
  simp only [List.contains_iff_mem]

/-- All that a call does to the history is to send its mark. -/
theorem FlushCall.history_poll (id : Nat) (call : FlushCall) (h : History) :
    (call.poll id h).2 = h ∨ ∃ number, (call.poll id h).2 = h.act (.mark id number) := by
  rw [poll]
  split
  · split
    · split
      · exact .inr ⟨_, rfl⟩
      · exact .inl rfl
    · exact .inl rfl
  · split <;> exact .inl rfl
  · split
    · exact .inl rfl
    · split <;> exact .inl rfl
  · exact .inl rfl

/-- A call stays the call that was begun. -/
theorem FlushCall.begun_poll (id : Nat) (call : FlushCall) (h : History) :
    (call.poll id h).1.begun = call.begun := by
  rw [poll]
  repeat' split
  all_goals rfl

namespace FlushCall.Sound

variable {process? : Ticket → Option Processing} {route : QueueKey → Nat} {h : History} {id : Nat}
  {call : FlushCall}

/-- Whatever happens elsewhere keeps a call sound. -/
theorem act (sound : call.Sound route id h) (lanes : h.Lanes process? route) (action : Action) :
    call.Sound route id (h.act action) where
  arrived := List.Subset.trans sound.arrived (lanes.change action).arrived_subset
  behind := lanes.markBehind_act sound.arrived sound.behind action
  reached number number_lt := by
    rw [(lanes.change action).length_workers_eq] at number_lt
    refine (sound.reached number number_lt).imp_right (Or.imp_right fun acknowledged ↦ ?_)
    exact lanes.acknowledged_act acknowledged action
  returned := sound.returned

/-- A call begins with everything still to be sent. -/
theorem begin (unmarked : h.Unmarked id) : FlushCall.Sound route id { begun := h } h where
  arrived := List.Subset.refl _
  behind := unmarked.markBehind_all route _
  reached number _ := .inl (Nat.zero_le number)
  returned := nofun

/-- Going on keeps a call sound. -/
theorem poll (sound : call.Sound route id h) (lanes : h.Lanes process? route) :
    (call.poll id h).1.Sound route id (call.poll id h).2 := by
  obtain ⟨begun, phase, acks⟩ := call
  cases phase with
  | sending number =>
    by_cases number_lt : number < h.dispatcher.workers.length
    · have worker_eq := List.getElem?_eq_getElem number_lt
      have enter_eq := Dispatcher.enterMark_eq worker_eq (lanes.lane number _ worker_eq).sound id
      simp only [FlushCall.poll, if_pos number_lt, enter_eq]
      exact ⟨(sound.act lanes _).arrived, (sound.act lanes _).behind, (sound.act lanes _).reached,
        nofun⟩
    · simp only [FlushCall.poll, if_neg number_lt]
      refine ⟨sound.arrived, sound.behind, fun other other_lt ↦ ?_, nofun⟩
      refine (sound.reached other other_lt).imp_left fun before ↦ ?_
      exact absurd (Nat.lt_of_le_of_lt before other_lt) number_lt
  | entering number =>
    by_cases held : h.dispatcher.holdsBack id number = true
    · simp only [FlushCall.poll, if_pos held]
      exact sound
    · simp only [FlushCall.poll, if_neg held]
      refine ⟨sound.arrived, sound.behind, fun other other_lt ↦ ?_, nofun⟩
      rcases sound.reached other other_lt with before | awaited | acknowledged
      · rcases Nat.eq_or_lt_of_le before with rfl | after
        · exact .inr (.inl (List.mem_append_right _ List.mem_cons_self))
        · exact .inl after
      · exact .inr (.inl (List.mem_append_left _ awaited))
      · exact .inr (.inr acknowledged)
  | awaiting =>
    cases acks with
    | nil => exact ⟨sound.arrived, sound.behind, sound.reached, fun _ ↦ rfl⟩
    | cons number rest =>
      by_cases acknowledges : h.dispatcher.acknowledges id number = true
      · simp only [FlushCall.poll, if_pos acknowledges]
        refine ⟨sound.arrived, sound.behind, fun other other_lt ↦ ?_, nofun⟩
        rcases sound.reached other other_lt with before | awaited | acknowledged
        · exact before.elim
        · rcases List.mem_cons.mp awaited with rfl | awaited
          · exact .inr (.inr (History.acknowledges_iff.mp acknowledges))
          · exact .inr (.inl awaited)
        · exact .inr (.inr acknowledged)
      · simp only [FlushCall.poll, if_neg acknowledges]
        exact sound
  | returned => exact sound

/-- When a call has returned, everything that had arrived before it began is done. -/
theorem processed (sound : call.Sound route id h) (lanes : h.Lanes process? route)
    (phase_eq : call.phase = .returned) : call.begun.arrived ⊆ h.processed := by
  refine lanes.processed_of_acknowledged sound.behind fun number number_lt ↦ ?_
  rcases sound.reached number number_lt with before | awaited | acknowledged
  · rw [phase_eq] at before
    exact before.elim
  · rw [sound.returned phase_eq] at awaited
    exact absurd awaited List.not_mem_nil
  · exact acknowledged

end FlushCall.Sound

/-! ## All calls -/

namespace Flushing

/-- What holds at all times of a dispatcher whose callers flush. -/
structure Sound (process? : Ticket → Option Processing) (route : QueueKey → Nat) (s : Flushing) :
    Prop where
  lanes : s.history.Lanes process? route
  unmarked : ∀ id, s.calls.length ≤ id → s.history.Unmarked id
  calls : ∀ (id : Nat) (call : FlushCall), s.calls[id]? = some call →
    call.Sound route id s.history

namespace Sound

variable {process? : Ticket → Option Processing} {route : QueueKey → Nat} {s : Flushing}
  (sound : s.Sound process? route)

include sound

/-- No action but the sending of the mark of a call is met by more marks than there are calls. -/
theorem other {action : Action}
    (id_lt : ∀ id number, action = .mark id number → id < s.calls.length) :
    (s.other action).Sound process? route where
  lanes := sound.lanes.act action
  unmarked id id_ge := sound.lanes.unmarked_act (sound.unmarked id id_ge)
    fun number action_eq ↦ absurd (id_lt id number action_eq) (Nat.not_lt.mpr id_ge)
  calls id call call_eq := (sound.calls id call call_eq).act sound.lanes action

/-- A call may go on in its own way. -/
theorem setCall {id : Nat} {call : FlushCall} (call_sound : call.Sound route id s.history) :
    Sound process? route { s with calls := s.calls.set id call } where
  lanes := sound.lanes
  unmarked other other_ge := sound.unmarked other (List.length_set ▸ other_ge)
  calls other found found_eq := by
    rcases eq_or_ne id other with rfl | ne
    · rw [List.getElem?_set_self'] at found_eq
      obtain ⟨_, -, rfl⟩ := Option.map_eq_some_iff.mp found_eq
      exact call_sound
    · rw [List.getElem?_set_ne ne] at found_eq
      exact sound.calls other found found_eq

/-- Every event keeps a dispatcher sound whose callers flush. -/
theorem act (event : FlushEvent) : (s.act event).Sound process? route := by
  cases event with
  | submit | work | write => exact sound.other nofun
  | flush =>
    have begun : FlushCall.Sound route s.calls.length { begun := s.history } s.history :=
      .begin (sound.unmarked _ le_rfl)
    change Sound process? route { s with calls := s.calls ++ [{ begun := s.history }] }
    constructor
    case lanes => exact sound.lanes
    case unmarked =>
      intro id id_ge
      rw [List.length_append] at id_ge
      exact sound.unmarked id (Nat.le_of_lt id_ge)
    case calls =>
      intro id call call_eq
      rcases Nat.lt_or_ge id s.calls.length with id_lt | id_ge
      · rw [List.getElem?_append_left id_lt] at call_eq
        exact sound.calls id call call_eq
      · rw [List.getElem?_append_right id_ge, List.getElem?_singleton] at call_eq
        split at call_eq
        next sub_eq =>
          cases call_eq
          rwa [Nat.le_antisymm (Nat.le_of_sub_eq_zero sub_eq) id_ge]
        next => cases call_eq
  | poll id =>
    cases call_eq : s.calls[id]? with
    | none => rwa [Flushing.act, call_eq]
    | some call =>
      have id_lt := (List.getElem?_eq_some_iff.mp call_eq).1
      have polled := (sound.calls id call call_eq).poll sound.lanes
      have history_sound :
          Sound process? route { s with history := (call.poll id s.history).2 } := by
        rcases call.history_poll id s.history with history_eq | ⟨number, history_eq⟩
        · rwa [history_eq]
        · rw [history_eq]
          refine sound.other fun other _ action_eq ↦ ?_
          cases action_eq
          exact id_lt
      rw [Flushing.act, call_eq]
      exact history_sound.setCall polled

/-- A dispatcher whose callers flush stays sound. -/
theorem run (events : List FlushEvent) : (s.run events).Sound process? route := by
  induction events generalizing s with
  | nil => exact sound
  | cons event rest ih => exact ih (sound.act event)

end Sound

/-- At the start there is no call and no mark. -/
theorem sound_start (process? : Submission → Option Processing) (hash : QueueKey → Nat)
    (workers capacity : Nat) (sink : Sink) :
    (start process? hash workers capacity sink).Sound (fun t ↦ process? t.submission)
      (laneOf hash workers) where
  lanes := History.lanes_start process? hash workers capacity sink
  unmarked id _ number worker worker_eq := by
    have worker_mem := List.mem_of_getElem? worker_eq
    rw [start, History.start, Dispatcher.start] at worker_mem
    rw [List.eq_of_mem_replicate worker_mem]
    exact ⟨List.not_mem_nil, List.not_mem_nil⟩
  calls id call call_eq := nomatch call_eq

/-- What happens to the dispatcher while callers flush is a run of it. -/
theorem exists_actions (s : Flushing) (events : List FlushEvent) :
    ∃ actions, (s.run events).history = s.history.run actions := by
  induction events generalizing s with
  | nil => exact ⟨[], rfl⟩
  | cons event rest ih =>
    obtain ⟨actions, actions_eq⟩ := ih (s.act event)
    have first : ∃ first, (s.act event).history = s.history.run first := by
      cases event with
      | submit thread manner submission => exact ⟨[.submit thread manner submission], rfl⟩
      | work number => exact ⟨[.work number], rfl⟩
      | write record => exact ⟨[.write record], rfl⟩
      | flush => exact ⟨[], rfl⟩
      | poll id =>
        rw [act]
        split
        next call _ =>
          rcases call.history_poll id s.history with history_eq | ⟨number, history_eq⟩
          · exact ⟨[], history_eq⟩
          · exact ⟨[.mark id number], history_eq⟩
        next => exact ⟨[], rfl⟩
    obtain ⟨first, first_eq⟩ := first
    refine ⟨first ++ actions, actions_eq.trans ?_⟩
    rw [History.run_append, first_eq]

end Flushing

end Dispatch

end AuditTrail

import AuditTrail.Proofs.Dispatch.Erasure
import AuditTrail.Proofs.Dispatch.Flush

/-!
# The schedule of a flush

The flush of a dispatcher puts a mark into every queue and then lets the workers do everything that
there is to do.  A caller who flushes cannot do it in this order, since a mark may have to wait for
room before the next one is sent: the worker is let to work after each mark instead.  It makes no
difference, since a worker works past the queues of the others.

So the flush of a dispatcher is the schedule of a call in which, besides the caller, only workers
act; and there is such a schedule for a call that begins at any time, so that nothing that has
happened before keeps a call from returning.
-/

namespace AuditTrail

/-! ## Marks and the work of others -/

namespace Dispatcher

variable {α : Type} {d : Dispatcher α} {number other : Nat}

/-- Puts a mark into the queue of a worker, if the queue takes it. -/
def sendMark (id number : Nat) (d : Dispatcher α) : Dispatcher α :=
  (d.enterMark id number).toOption.getD d

/-- The queue of a worker with a mark, if there is the worker and its queue takes the mark. -/
def marked? (id number : Nat) (d : Dispatcher α) : Option (BoundedQueue (Job α)) :=
  d.workers[number]?.bind fun worker ↦ (worker.queue.enter (.mark id)).toOption

theorem sendMark_eq (id number : Nat) (d : Dispatcher α) :
    d.sendMark id number = (d.marked? id number).elim d fun queue ↦ d.setQueue number queue := by
  rw [sendMark, enterMark, marked?]
  cases worker_eq : d.workers[number]? with
  | none =>
    rw [withQueue, worker_eq]
    rfl
  | some worker =>
    rw [withQueue_eq worker_eq, Option.bind_some]
    cases worker.queue.enter (.mark id) <;> rfl

theorem length_workers_sendMark (id number : Nat) (d : Dispatcher α) :
    (d.sendMark id number).workers.length = d.workers.length := by
  rw [sendMark_eq]
  cases d.marked? id number with
  | none => rfl
  | some queue => exact length_workers_setQueue queue

theorem workers_step_of_ne (ne : number ≠ other) :
    (d.step number).1.workers[other]? = d.workers[other]? := by
  rw [step]
  cases d.workers[number]? with
  | none => rfl
  | some worker => exact List.getElem?_set_ne ne

/-- A worker steps past the queues of the others. -/
theorem step_setQueue (ne : number ≠ other) (queue : BoundedQueue (Job α)) (d : Dispatcher α) :
    ((d.setQueue other queue).step number).1 = (d.step number).1.setQueue other queue := by
  rw [step, workers_setQueue_of_ne ne.symm, step]
  cases d.workers[number]? with
  | none => rfl
  | some worker =>
    refine congrArg (fun workers ↦ Dispatcher.mk _ _ workers _ _) (List.ext_getElem? fun i ↦ ?_)
    simp only [setQueue]
    rcases eq_or_ne number i with rfl | number_ne
    · rw [List.getElem?_set_self', List.getElem?_modify_ne _ _ ne.symm,
        List.getElem?_modify_ne _ _ ne.symm, List.getElem?_set_self']
    · rw [List.getElem?_set_ne number_ne, List.getElem?_modify, List.getElem?_modify,
        List.getElem?_set_ne number_ne]

/-- A worker steps past the marks for the others. -/
theorem step_sendMark (ne : number ≠ other) (id : Nat) (d : Dispatcher α) :
    ((d.sendMark id other).step number).1 = (d.step number).1.sendMark id other := by
  rw [sendMark_eq, sendMark_eq, marked?, marked?, workers_step_of_ne ne]
  cases d.workers[other]?.bind fun worker ↦ (worker.queue.enter (.mark id)).toOption with
  | none => rfl
  | some queue => exact step_setQueue ne queue d

theorem steps_sendMark (ne : number ≠ other) (id n : Nat) (d : Dispatcher α) :
    ((d.sendMark id other).steps number n).1 = (d.steps number n).1.sendMark id other := by
  induction n generalizing d with
  | zero => rfl
  | succ n ih =>
    change (((d.sendMark id other).step number).1.steps number n).1 = _
    rw [step_sendMark ne, ih]
    rfl

theorem workers_sendMark_of_ne (ne : number ≠ other) (id : Nat) (d : Dispatcher α) :
    (d.sendMark id number).workers[other]? = d.workers[other]? := by
  rw [sendMark_eq]
  cases d.marked? id number with
  | none => rfl
  | some queue => exact workers_setQueue_of_ne ne queue

theorem process?_sendMark (id number : Nat) (d : Dispatcher α) :
    (d.sendMark id number).process? = d.process? := by
  rw [sendMark_eq]
  cases d.marked? id number <;> rfl

/-- A worker does all that it has to do past the marks for the others. -/
theorem drainWorker_sendMark (ne : number ≠ other) (id : Nat) (d : Dispatcher α) :
    ((d.sendMark id other).drainWorker number).1 = (d.drainWorker number).1.sendMark id other := by
  rw [drainWorker, workers_sendMark_of_ne ne.symm, process?_sendMark, drainWorker]
  cases d.workers[number]? with
  | none => rfl
  | some worker => exact steps_sendMark ne id _ d

theorem drainWorker_foldl_sendMark {numbers : List Nat} (number_not_mem : number ∉ numbers)
    (id : Nat) (d : Dispatcher α) :
    ((numbers.foldl (fun d other ↦ d.sendMark id other) d).drainWorker number).1 =
      numbers.foldl (fun d other ↦ d.sendMark id other) (d.drainWorker number).1 := by
  induction numbers generalizing d with
  | nil => rfl
  | cons other rest ih =>
    rw [List.mem_cons, not_or] at number_not_mem
    rw [List.foldl_cons, ih number_not_mem.2, drainWorker_sendMark number_not_mem.1]
    rfl

/-- Letting each worker work as soon as its mark is sent comes to the same as sending all marks
first. -/
theorem foldl_drainWorker_sendMark {numbers : List Nat} (nodup : numbers.Nodup) (id : Nat)
    (d : Dispatcher α) :
    numbers.foldl (fun d number ↦ ((d.sendMark id number).drainWorker number).1) d =
      numbers.foldl (fun d number ↦ (d.drainWorker number).1)
        (numbers.foldl (fun d number ↦ d.sendMark id number) d) := by
  induction numbers generalizing d with
  | nil => rfl
  | cons number rest ih =>
    obtain ⟨number_not_mem, rest_nodup⟩ := List.nodup_cons.mp nodup
    rw [List.foldl_cons, ih rest_nodup, List.foldl_cons, List.foldl_cons,
      drainWorker_foldl_sendMark number_not_mem]

/-- The flush of a dispatcher, with each worker at work as soon as its mark is sent. -/
theorem flush_eq (id : Nat) (d : Dispatcher α) :
    (d.flush id).1 = (List.range d.workers.length).foldl
      (fun d number ↦ ((d.sendMark id number).drainWorker number).1) d := by
  have length_eq (numbers : List Nat) :
      (numbers.foldl (fun d number ↦ d.sendMark id number) d).workers.length =
        d.workers.length := by
    induction numbers generalizing d with
    | nil => rfl
    | cons number rest ih => exact (ih _).trans (length_workers_sendMark id number d)
  rw [foldl_drainWorker_sendMark List.nodup_range, flush, drain, fst_forWorkers, fst_forWorkers]
  exact congrArg (fun n ↦ (List.range n).foldl _ _) (length_eq _)

end Dispatcher

namespace Dispatch

/-- Nothing is held back from an idle worker. -/
theorem History.IsIdle.holdsBack_eq {h : History} {number : Nat} (idle : h.IsIdle number)
    (id : Nat) : h.dispatcher.holdsBack id number = false := by
  rw [Dispatcher.holdsBack]
  cases worker_eq : h.dispatcher.workers[number]? with
  | none => rfl
  | some worker =>
    rw [Option.any_some, (List.append_eq_nil_iff.mp (idle worker worker_eq).2).2]
    rfl

namespace History.Lanes

variable {process? : Ticket → Option Processing} {route : QueueKey → Nat} {h : History}
  (lanes : h.Lanes process? route)

include lanes

theorem length_workers_run (actions : List Action) :
    (h.run actions).dispatcher.workers.length = h.dispatcher.workers.length := by
  induction actions generalizing h with
  | nil => rfl
  | cons action rest ih =>
    exact (ih (lanes.act action)).trans (lanes.change action).length_workers_eq

theorem acknowledged_run {id number : Nat} (acknowledged : h.Acknowledged id number)
    (actions : List Action) : (h.run actions).Acknowledged id number := by
  induction actions generalizing h with
  | nil => exact acknowledged
  | cons action rest ih => exact ih (lanes.act action) (lanes.acknowledged_act acknowledged action)

theorem marked_run {id number : Nat} (marked : h.Marked id number) (actions : List Action) :
    (h.run actions).Marked id number := by
  induction actions generalizing h with
  | nil => exact marked
  | cons action rest ih => exact ih (lanes.act action) (lanes.marked_act marked action)

/-- A mark for a worker is sent. -/
theorem marked_act_mark (id : Nat) {number : Nat} (lt : number < h.dispatcher.workers.length) :
    (h.act (.mark id number)).Marked id number := by
  have worker_eq := List.getElem?_eq_getElem lt
  have sound := (lanes.lane number _ worker_eq).sound
  rw [Marked, History.act, Dispatcher.enterMark_eq worker_eq sound]
  refine ⟨_, Dispatcher.workers_setQueue_self worker_eq _, .inr ?_⟩
  by_cases room : h.dispatcher.workers[number].queue.items.length <
      h.dispatcher.workers[number].queue.capacity
  · rw [if_pos room, sound.pending_push room]
    exact List.mem_append_right _ List.mem_cons_self
  · rw [if_neg room, BoundedQueue.pending_join]
    exact List.mem_append_right _ List.mem_cons_self

end History.Lanes

/-! ## A call with the workers alone -/

/-- The event is one of the caller who flushes with a mark, or a step of a worker. -/
def FlushEvent.IsOwn (id : Nat) (event : FlushEvent) : Prop :=
  event = .poll id ∨ ∃ number, event = .work number

namespace Flushing

variable {s : Flushing} {id : Nat} {call : FlushCall}

theorem act_poll (call_eq : s.calls[id]? = some call) :
    s.act (.poll id) =
      { history := (call.poll id s.history).2
        calls := s.calls.set id (call.poll id s.history).1 } := by
  rw [act, call_eq]

theorem calls_set (call_eq : s.calls[id]? = some call) (other : FlushCall) :
    (s.calls.set id other)[id]? = some other := by
  rw [List.getElem?_set_self', call_eq]
  rfl

/-- A call stays the same call. -/
theorem exists_call (s : Flushing) (call_eq : s.calls[id]? = some call)
    (events : List FlushEvent) :
    ∃ later, (s.run events).calls[id]? = some later ∧ later.begun = call.begun := by
  induction events generalizing s call with
  | nil => exact ⟨call, call_eq, rfl⟩
  | cons event rest ih =>
    obtain ⟨next, next_eq, begun_eq⟩ :
        ∃ next, (s.act event).calls[id]? = some next ∧ next.begun = call.begun := by
      cases event with
      | submit | work | write => exact ⟨call, call_eq, rfl⟩
      | flush =>
        have id_lt := (List.getElem?_eq_some_iff.mp call_eq).1
        exact ⟨call, (List.getElem?_append_left id_lt).trans call_eq, rfl⟩
      | poll other =>
        cases other_eq : s.calls[other]? with
        | none =>
          rw [act, other_eq]
          exact ⟨call, call_eq, rfl⟩
        | some polled =>
          rw [act_poll other_eq]
          rcases eq_or_ne other id with rfl | ne
          · rw [call_eq] at other_eq
            cases other_eq
            exact ⟨_, calls_set call_eq _, call.begun_poll other s.history⟩
          · exact ⟨call, (List.getElem?_set_ne ne).trans call_eq, rfl⟩
    obtain ⟨later, later_eq, later_begun_eq⟩ := ih (s.act event) next_eq
    exact ⟨later, later_eq, later_begun_eq.trans begun_eq⟩

theorem run_replicate_work (number n : Nat) (s : Flushing) :
    s.run (List.replicate n (.work number)) =
      { s with history := s.history.run (List.replicate n (.work number)) } := by
  induction n generalizing s with
  | zero => rfl
  | succ n ih => exact ih (s.act (.work number))

/-- The steps with which a worker does everything that there is for it to do. -/
def drainEvents (number : Nat) (s : Flushing) : List FlushEvent :=
  match s.history.dispatcher.workers[number]? with
  | some worker =>
    List.replicate (worker.stepsToIdle s.history.dispatcher.process?) (.work number)
  | none => []

theorem run_drainEvents (number : Nat) (s : Flushing) :
    s.run (s.drainEvents number) =
      { s with history := s.history.run (s.history.drainActions number) } := by
  rw [drainEvents, History.drainActions]
  cases s.history.dispatcher.workers[number]? with
  | none => rfl
  | some worker => exact run_replicate_work number _ s

theorem mem_drainEvents {number : Nat} {event : FlushEvent}
    (event_mem : event ∈ s.drainEvents number) : event = .work number := by
  rw [drainEvents] at event_mem
  split at event_mem
  · exact List.eq_of_mem_replicate event_mem
  · exact absurd event_mem List.not_mem_nil

namespace Sound

variable {process? : Ticket → Option Processing} {route : QueueKey → Nat} {number : Nat}
  {begun : History} {acks : List Nat}

/-- A mark is sent, enters the queue and is acknowledged as soon as the worker has worked. -/
theorem exists_send (sound : s.Sound process? route)
    (call_eq : s.calls[id]? = some ⟨begun, .sending number, acks⟩)
    (number_lt : number < s.history.dispatcher.workers.length) :
    ∃ events, (∀ event ∈ events, event.IsOwn id) ∧
      (s.run events).calls[id]? = some ⟨begun, .sending (number + 1), acks ++ [number]⟩ ∧
      (s.run events).history.dispatcher =
        ((s.history.dispatcher.sendMark id number).drainWorker number).1 ∧
      (s.run events).history.Acknowledged id number := by
  have worker_eq := List.getElem?_eq_getElem number_lt
  have enter_eq := Dispatcher.enterMark_eq worker_eq (sound.lanes.lane number _ worker_eq).sound id
  -- The mark is sent, the worker does what there is to do, and the call finds that it has entered.
  let marked := s.history.act (.mark id number)
  let drained := marked.run (marked.drainActions number)
  have sent_eq : s.act (.poll id) =
      { history := marked, calls := s.calls.set id ⟨begun, .entering number, acks⟩ } := by
    rw [act_poll call_eq]
    simp only [FlushCall.poll, if_pos number_lt, enter_eq, marked]
  have idle : drained.IsIdle number := (sound.lanes.act _).isIdle_run_drainActions
  have not_held : ¬ drained.dispatcher.holdsBack id number = true := by
    rw [idle.holdsBack_eq]
    exact Bool.false_ne_true
  have entered_eq :
      ((s.act (.poll id)).run ((s.act (.poll id)).drainEvents number)).act (.poll id) =
      { history := drained
        calls := s.calls.set id ⟨begun, .sending (number + 1), acks ++ [number]⟩ } := by
    rw [run_drainEvents, sent_eq, act_poll (calls_set call_eq _)]
    simp only [FlushCall.poll, List.set_set]
    rw [if_neg not_held]
  refine ⟨.poll id :: ((s.act (.poll id)).drainEvents number ++ [.poll id]), ?_, ?_⟩
  · intro event event_mem
    rcases List.mem_cons.mp event_mem with rfl | event_mem
    · exact .inl rfl
    · rcases List.mem_append.mp event_mem with event_mem | event_mem
      · exact .inr ⟨number, mem_drainEvents event_mem⟩
      · exact .inl (List.mem_singleton.mp event_mem)
  · have run_eq : s.run (.poll id :: ((s.act (.poll id)).drainEvents number ++ [.poll id])) = _ :=
      (run_append _ _ _).trans entered_eq
    rw [run_eq]
    refine ⟨calls_set call_eq _, History.dispatcher_run_drainActions, ?_⟩
    exact ((sound.lanes.act _).marked_run (sound.lanes.marked_act_mark id number_lt) _).acknowledged
      idle

/-- All marks are sent, one after the other. -/
theorem exists_sendAll (sound : s.Sound process? route)
    (call_eq : s.calls[id]? = some ⟨begun, .sending number, acks⟩) {n : Nat}
    (length_eq : s.history.dispatcher.workers.length = number + n)
    (acknowledged : ∀ number ∈ acks, s.history.Acknowledged id number) :
    ∃ events, (∀ event ∈ events, event.IsOwn id) ∧
      (s.run events).calls[id]? = some ⟨begun, .awaiting, acks ++ List.range' number n⟩ ∧
      (s.run events).history.dispatcher = (List.range' number n).foldl
        (fun d number ↦ ((d.sendMark id number).drainWorker number).1) s.history.dispatcher ∧
      ∀ other ∈ acks ++ List.range' number n, (s.run events).history.Acknowledged id other := by
  induction n generalizing s number acks with
  | zero =>
    have all_sent : ¬ number < s.history.dispatcher.workers.length :=
      Nat.not_lt.mpr (Nat.le_of_eq length_eq)
    have last_eq : s.act (.poll id) =
        { history := s.history, calls := s.calls.set id ⟨begun, .awaiting, acks⟩ } := by
      rw [act_poll call_eq]
      simp only [FlushCall.poll, if_neg all_sent]
    refine ⟨[.poll id], List.forall_mem_singleton.mpr (.inl rfl), ?_⟩
    change (s.act (.poll id)).calls[id]? = _ ∧ (s.act (.poll id)).history.dispatcher = _ ∧
      ∀ other ∈ _, (s.act (.poll id)).history.Acknowledged id other
    rw [last_eq, List.range'_zero, List.append_nil]
    exact ⟨calls_set call_eq _, rfl, acknowledged⟩
  | succ n ih =>
    obtain ⟨events, own, sent_eq, dispatcher_eq, number_acknowledged⟩ :=
      sound.exists_send call_eq (by omega)
    obtain ⟨actions, history_eq⟩ := exists_actions s events
    obtain ⟨more, more_own, calls_eq, more_dispatcher_eq, more_acknowledged⟩ :=
      ih (sound.run events) sent_eq
        (by rw [history_eq, sound.lanes.length_workers_run]; omega) (by
          intro other other_mem
          rcases List.mem_append.mp other_mem with other_mem | other_mem
          · rw [history_eq]
            exact sound.lanes.acknowledged_run (acknowledged other other_mem) actions
          · rwa [List.mem_singleton.mp other_mem])
    refine ⟨events ++ more, List.forall_mem_append.mpr ⟨own, more_own⟩, ?_⟩
    rw [run_append, List.range'_succ, List.append_cons, List.foldl_cons, ← dispatcher_eq]
    exact ⟨calls_eq, more_dispatcher_eq, more_acknowledged⟩

end Sound

/-- A call whose marks have all been acknowledged returns. -/
theorem exists_return {acks : List Nat} {begun : History}
    (call_eq : s.calls[id]? = some ⟨begun, .awaiting, acks⟩)
    (acknowledged : ∀ number ∈ acks, s.history.Acknowledged id number) :
    ∃ events, (∀ event ∈ events, event.IsOwn id) ∧ (s.run events).history = s.history ∧
      (s.run events).calls[id]? = some ⟨begun, .returned, []⟩ := by
  induction acks generalizing s with
  | nil =>
    refine ⟨[.poll id], List.forall_mem_singleton.mpr (.inl rfl), ?_⟩
    change (s.act (.poll id)).history = _ ∧ (s.act (.poll id)).calls[id]? = _
    rw [act_poll call_eq]
    exact ⟨rfl, calls_set call_eq _⟩
  | cons number rest ih =>
    have acknowledges := History.acknowledges_iff.mpr (acknowledged number List.mem_cons_self)
    have next_eq : s.act (.poll id) =
        { history := s.history, calls := s.calls.set id ⟨begun, .awaiting, rest⟩ } := by
      rw [act_poll call_eq]
      simp only [FlushCall.poll, if_pos acknowledges]
    obtain ⟨events, own, history_eq, returned_eq⟩ := ih (s := s.act (.poll id))
      (next_eq ▸ calls_set call_eq _)
      (next_eq ▸ fun other other_mem ↦ acknowledged other (List.mem_cons_of_mem _ other_mem))
    refine ⟨.poll id :: events, List.forall_mem_cons.mpr ⟨.inl rfl, own⟩, ?_, returned_eq⟩
    exact history_eq.trans (by rw [next_eq])

/-- A call that begins returns once the workers have worked as in the flush of the dispatcher. -/
theorem Sound.exists_flush {process? : Ticket → Option Processing} {route : QueueKey → Nat}
    (sound : s.Sound process? route) :
    ∃ events, (∀ event ∈ events, event.IsOwn s.calls.length) ∧
      (s.run (.flush :: events)).calls[s.calls.length]? = some ⟨s.history, .returned, []⟩ ∧
      (s.run (.flush :: events)).history.dispatcher =
        (s.history.dispatcher.flush s.calls.length).1 := by
  have call_eq : (s.act .flush).calls[s.calls.length]? = some ⟨s.history, .sending 0, []⟩ :=
    List.getElem?_concat_length
  obtain ⟨events, own, awaiting_eq, dispatcher_eq, acknowledged⟩ :=
    (sound.act .flush).exists_sendAll call_eq (Nat.zero_add _).symm (List.forall_mem_nil _)
  obtain ⟨more, more_own, history_eq, returned_eq⟩ := exists_return awaiting_eq acknowledged
  refine ⟨events ++ more, List.forall_mem_append.mpr ⟨own, more_own⟩, ?_⟩
  change ((s.act .flush).run (events ++ more)).calls[_]? = _ ∧
    ((s.act .flush).run (events ++ more)).history.dispatcher = _
  rw [run_append, history_eq, dispatcher_eq, Dispatcher.flush_eq, List.range_eq_range']
  exact ⟨returned_eq, rfl⟩

end Flushing

/-- **A flush is a barrier.**  Whatever callers and workers do, in any order, with any number of
flushes under way, of any number of workers with queues of any capacity: when a call of flush has
returned, every submission that a queue had accepted before the call began, and every one that was
waiting for room in a queue, is processed, and all its records have been offered to the sink.  No
call is kept from returning by what has happened before it, since the workers need only do what
there is to do, as in the flush of the dispatcher.  Without its calls and tickets the history is a
run of the dispatcher. -/
theorem flush_is_barrier (process? : Submission → Option Processing) (hash : QueueKey → Nat)
    (workers capacity : Nat) (sink : Sink) (before after : List FlushEvent) :
    let begun := (Flushing.start process? hash workers capacity sink).run before
    let s := begun.run (.flush :: after)
    (∃ actions : List Action, s.history.plain process? =
        actions.foldl Action.apply (Dispatcher.start process? hash workers capacity sink)) ∧
      (∃ call, s.calls[begun.calls.length]? = some call ∧ (call.phase = .returned →
        ∀ t, t ∈ begun.history.accepted ∨ t ∈ begun.history.arrived →
          t ∈ s.history.processed ∧
            s.history.writesFor t.number = Worker.records (fun t ↦ process? t.submission) t)) ∧
      ∃ events, (∀ event ∈ events, event.IsOwn begun.calls.length) ∧
        (begun.run (.flush :: events)).calls[begun.calls.length]? =
          some ⟨begun.history, .returned, []⟩ ∧
        (begun.run (.flush :: events)).history.dispatcher =
          (begun.history.dispatcher.flush begun.calls.length).1 := by
  intro begun s
  have begun_sound : begun.Sound _ _ :=
    (Flushing.sound_start process? hash workers capacity sink).run before
  have sound : s.Sound _ _ := begun_sound.run (.flush :: after)
  obtain ⟨actions, history_eq⟩ : ∃ actions,
      s.history = (History.start process? hash workers capacity sink).run actions := by
    have run_eq : s = (Flushing.start process? hash workers capacity sink).run
        (before ++ .flush :: after) := (Flushing.run_append _ _ _).symm
    rw [run_eq]
    exact Flushing.exists_actions _ _
  refine ⟨⟨actions, ?_⟩, ?_, begun_sound.exists_flush⟩
  · rw [history_eq]
    exact History.plain_run process? hash workers capacity sink actions
  · obtain ⟨call, call_eq, begun_eq⟩ :=
      (begun.act .flush).exists_call (List.getElem?_concat_length) after
    refine ⟨call, call_eq, fun phase_eq t t_mem ↦ ?_⟩
    have t_processed : t ∈ s.history.processed := by
      refine (sound.calls _ call call_eq).processed sound.lanes phase_eq ?_
      rw [begun_eq]
      exact t_mem.elim begun_sound.lanes.mem_arrived_of_accepted id
    refine ⟨t_processed, sound.lanes.writesFor_of_processed ?_ t_processed⟩
    rw [history_eq]
    exact History.books_run process? hash workers capacity sink actions

end Dispatch

end AuditTrail

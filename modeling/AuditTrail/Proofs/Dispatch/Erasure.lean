import AuditTrail.Proofs.Dispatch.Lane

/-!
# Forgetting tickets

A dispatcher does not look into what goes through its queues: it asks only how a submission is
processed and by which key it was handed in.  So a dispatcher of tickets is a dispatcher of
submissions with labels on them.  Removing the labels commutes with every operation, and a history
says what happens to the dispatcher that runs without any tickets.
-/

namespace AuditTrail

variable {α β : Type} (f : α → β)

/-! ## Queues and workers -/

/-- The job for a relabelled submission. -/
def Job.map : Job α → Job β
  | submission a => submission (f a)
  | mark id => mark id

namespace BoundedQueue

/-- The queue with relabelled items. -/
def map (queue : BoundedQueue α) : BoundedQueue β where
  capacity := queue.capacity
  items := queue.items.map f
  waiting := queue.waiting.map f
  isOpen := queue.isOpen

theorem hasRoom_map (queue : BoundedQueue α) : (queue.map f).hasRoom = queue.hasRoom := by
  rw [hasRoom, hasRoom, map, List.length_map, List.isEmpty_map]

theorem offer_map (a : α) (queue : BoundedQueue α) :
    (queue.map f).offer (f a) = (queue.offer a).map (map f) := by
  rw [offer, offer, hasRoom_map]
  by_cases closed : (!queue.isOpen) = true
  · rw [if_pos closed]
    exact if_pos closed
  · rw [if_neg closed]
    refine (if_neg closed).trans ?_
    by_cases room : queue.hasRoom = true
    · rw [if_pos room, if_pos room]
      simp only [Except.map, map, List.map_append, List.map_cons, List.map_nil]
    · rw [if_neg room, if_neg room]
      rfl

theorem enter_map (a : α) (queue : BoundedQueue α) :
    (queue.map f).enter (f a) = (queue.enter a).map (map f) := by
  rw [enter, enter, offer_map]
  rcases queue.offer a with (_ | _) | after
  · simp only [Except.map, map, List.map_append, List.map_cons, List.map_nil]
  · rfl
  · rfl

theorem take?_map (queue : BoundedQueue α) :
    (queue.map f).take? = queue.take?.map fun (a, rest) ↦ (f a, rest.map f) := by
  rcases items_eq : queue.items with _ | ⟨a, items⟩
  · simp only [take?, map, items_eq, List.map_nil, Option.map_none]
  · simp only [take?, map, items_eq, List.map_cons, Option.map_some, List.map_append,
      List.map_take, List.map_drop]

end BoundedQueue

/-- The task for a relabelled submission. -/
def Task.map (task : Task α) : Task β :=
  ⟨f task.submission, task.records⟩

namespace Worker

/-- The worker with relabelled submissions. -/
def map (worker : Worker α) : Worker β where
  queue := worker.queue.map (Job.map f)
  task := worker.task.map (Task.map f)
  acknowledged := worker.acknowledged

variable (process? : β → Option Processing) (number : Nat)

theorem start_map (job : Job α) (worker : Worker α) :
    start process? number (job.map f) (worker.map f) =
      ((start (fun a ↦ process? (f a)) number job worker).1.map f,
        (start (fun a ↦ process? (f a)) number job worker).2) := by
  cases job with
  | mark id => rfl
  | submission a =>
    rw [Job.map, start, start]
    cases process? (f a) <;> rfl

/-- A worker steps alike with labels and without. -/
theorem step_map (worker : Worker α) (sink : Sink) :
    (worker.map f).step process? number sink =
      ((worker.step (fun a ↦ process? (f a)) number sink).1.map f,
        (worker.step (fun a ↦ process? (f a)) number sink).2) := by
  obtain ⟨queue, task, acknowledged⟩ := worker
  rcases task with _ | ⟨a, _ | ⟨record, records⟩⟩
  · rcases take_eq : queue.take? with _ | ⟨job, rest⟩
    · simp only [map, Option.map_none, step, BoundedQueue.take?_map, take_eq]
    · have start_eq := start_map f process? number job ⟨rest, none, acknowledged⟩
      simp only [map, Option.map_none] at start_eq
      simp only [map, Option.map_none, Option.map_some, step, BoundedQueue.take?_map, take_eq,
        start_eq]
  · rfl
  · rfl

end Worker

/-! ## Dispatchers -/

namespace Dispatcher

variable (process? : β → Option Processing)

/-- The dispatcher with relabelled submissions. -/
def map (d : Dispatcher α) : Dispatcher β where
  process?
  hash := d.hash
  workers := d.workers.map (Worker.map f)
  dropped := d.dropped
  sink := d.sink

theorem choose_map (key : QueueKey) (d : Dispatcher α) :
    (d.map f process?).choose key = d.choose key := by
  rw [choose, choose, map, List.length_map]

theorem setQueue_map (number : Nat) (queue : BoundedQueue (Job α)) (d : Dispatcher α) :
    (d.map f process?).setQueue number (queue.map (Job.map f)) =
      (d.setQueue number queue).map f process? := by
  have workers_eq : (d.workers.map (Worker.map f)).modify number
        (fun worker ↦ { worker with queue := queue.map (Job.map f) }) =
      (d.workers.modify number fun worker ↦ { worker with queue }).map (Worker.map f) := by
    refine List.ext_getElem? fun other ↦ ?_
    rw [List.getElem?_modify, List.getElem?_map, List.getElem?_map, List.getElem?_modify]
    cases d.workers[other]? with
    | none => rfl
    | some worker =>
      by_cases eq : number = other
      · simp only [eq, Option.map_some, Option.map_eq_map, if_true]
        rfl
      · simp only [eq, Option.map_some, Option.map_eq_map, if_false]
  rw [setQueue, map, workers_eq]
  rfl

/-- An operation on a queue that is blind to labels is blind to them in the dispatcher. -/
theorem withQueue_map (number : Nat)
    {operation : BoundedQueue (Job α) → Except DispatchError (BoundedQueue (Job α))}
    {operation' : BoundedQueue (Job β) → Except DispatchError (BoundedQueue (Job β))}
    (same : ∀ queue, operation' (queue.map (Job.map f)) =
      (operation queue).map (BoundedQueue.map (Job.map f))) (d : Dispatcher α) :
    (d.map f process?).withQueue number operation' =
      (d.withQueue number operation).map (map f process?) := by
  rcases worker_eq : d.workers[number]? with _ | worker
  · have map_eq : (d.map f process?).workers[number]? = none := by
      rw [map, List.getElem?_map, worker_eq]
      rfl
    rw [withQueue, withQueue, map_eq, worker_eq]
    rfl
  · have map_eq : (d.map f process?).workers[number]? = some (worker.map f) := by
      rw [map, List.getElem?_map, worker_eq]
      rfl
    rw [withQueue_eq map_eq, withQueue_eq worker_eq, Worker.map, same]
    cases operation worker.queue with
    | error error => rfl
    | ok queue => exact congrArg Except.ok (setQueue_map f process? number queue d)

theorem offer_map (key : QueueKey) (a : α) (d : Dispatcher α) :
    (d.map f process?).offer key (f a) = (d.offer key a).map (map f process?) := by
  rw [offer, choose_map]
  exact withQueue_map f process? _ (BoundedQueue.offer_map (Job.map f) (.submission a)) d

theorem enter_map (key : QueueKey) (a : α) (d : Dispatcher α) :
    (d.map f process?).enter key (f a) = (d.enter key a).map (map f process?) := by
  rw [enter, choose_map]
  exact withQueue_map f process? _ (BoundedQueue.enter_map (Job.map f) (.submission a)) d

theorem enterMark_map (id number : Nat) (d : Dispatcher α) :
    (d.map f process?).enterMark id number = (d.enterMark id number).map (map f process?) :=
  withQueue_map f process? _ (BoundedQueue.enter_map (Job.map f) (.mark id)) d

theorem submit_map (key : QueueKey) (a : α) (d : Dispatcher α) :
    ((d.map f process?).submit key (f a)).1 = (d.submit key a).1.map f process? := by
  rw [submit, submit, offer_map]
  rcases d.offer key a with (_ | _) | after <;> rfl

theorem step_map (number : Nat) {d : Dispatcher α}
    (process_eq : d.process? = fun a ↦ process? (f a)) :
    ((d.map f process?).step number).1 = (d.step number).1.map f process? := by
  rcases worker_eq : d.workers[number]? with _ | worker
  · have map_eq : (d.map f process?).workers[number]? = none := by
      rw [map, List.getElem?_map, worker_eq]
      rfl
    rw [step, step, map_eq, worker_eq]
  · have map_eq : (d.map f process?).workers[number]? = some (worker.map f) := by
      rw [map, List.getElem?_map, worker_eq]
      rfl
    have step_eq := worker.step_map f process? number d.sink
    rw [← process_eq] at step_eq
    rw [step, step, map_eq, worker_eq]
    simp only [map, step_eq, List.map_set]

end Dispatcher

/-! ## Histories -/

namespace Dispatch

theorem Manner.call_map (process? : β → Option Processing) (manner : Manner) (key : QueueKey)
    (a : α) (d : Dispatcher α) :
    manner.call key (f a) (d.map f process?) = (manner.call key a d).map f process? := by
  cases manner with
  | drops => exact Dispatcher.submit_map f process? key a d
  | tries =>
    rw [call, call, Dispatcher.offer_map]
    cases d.offer key a <;> rfl
  | waits =>
    rw [call, call, Dispatcher.enter_map]
    cases d.enter key a <;> rfl

namespace History

/-- The dispatcher of a history without tickets. -/
def plain (process? : Submission → Option Processing) (h : History) : Dispatcher Submission :=
  h.dispatcher.map (·.submission) process?

variable {process? : Submission → Option Processing} {route : QueueKey → Nat} {h : History}

/-- An action does to a dispatcher of tickets what it does without tickets. -/
theorem Lanes.plain_act (lanes : h.Lanes (fun t ↦ process? t.submission) route) (action : Action) :
    (h.act action).plain process? = action.apply (h.plain process?) := by
  cases action with
  | submit thread manner submission =>
    have dispatcher_eq (t : Ticket) :
        (h.submit t).dispatcher = t.manner.call t.key t h.dispatcher := by
      rw [History.submit]
      split <;> rfl
    rw [History.act, plain, dispatcher_eq]
    exact (Manner.call_map _ process? manner _ _ h.dispatcher).symm
  | mark id number =>
    rw [Action.apply, plain, plain, Dispatcher.enterMark_map, History.act]
    cases h.dispatcher.enterMark id number <;> rfl
  | work number =>
    rw [Action.apply, plain, plain, Dispatcher.step_map _ process? number lanes.process_eq,
      History.act, dispatcher_work]
  | write record => rfl

/-- **Tickets change nothing.**  A run of a dispatcher of tickets is, without the tickets, the run
of the dispatcher of submissions. -/
theorem plain_run (process? : Submission → Option Processing) (hash : QueueKey → Nat)
    (workers capacity : Nat) (sink : Sink) (actions : List Action) :
    ((start process? hash workers capacity sink).run actions).plain process? =
      actions.foldl Action.apply (Dispatcher.start process? hash workers capacity sink) := by
  have run_eq {h : History}
      (lanes : h.Lanes (fun t ↦ process? t.submission) (laneOf hash workers)) :
      (h.run actions).plain process? = actions.foldl Action.apply (h.plain process?) := by
    induction actions generalizing h with
    | nil => rfl
    | cons action rest ih =>
      have rest_eq := ih (lanes.act action)
      rw [lanes.plain_act] at rest_eq
      exact rest_eq
  have start_eq : (start process? hash workers capacity sink).plain process? =
      Dispatcher.start process? hash workers capacity sink := by
    rw [plain, start, Dispatcher.start, Dispatcher.map, List.map_replicate]
    rfl
  rw [run_eq (lanes_start process? hash workers capacity sink), start_eq]

end History

end Dispatch

end AuditTrail

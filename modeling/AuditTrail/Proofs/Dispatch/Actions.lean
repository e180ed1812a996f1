import AuditTrail.Proofs.Dispatch.History

/-!
# What an action does

Every operation of the dispatcher has a specification in terms of the queue that it concerns, as
long as this queue is sound.  From these it follows once and for all what an action can do to a
history, and what is to hold of all histories needs to be looked at only for these changes.
-/

namespace AuditTrail

/-! ## One queue at a time -/

namespace Dispatcher

variable {α : Type} {d : Dispatcher α} {number other : Nat} {worker : Worker α}

theorem workers_setQueue_self (worker_eq : d.workers[number]? = some worker)
    (queue : BoundedQueue (Job α)) :
    (d.setQueue number queue).workers[number]? = some { worker with queue } := by
  rw [setQueue, List.getElem?_modify_eq, worker_eq]
  rfl

theorem workers_setQueue_of_ne (ne : number ≠ other) (queue : BoundedQueue (Job α)) :
    (d.setQueue number queue).workers[other]? = d.workers[other]? := by
  rw [setQueue, List.getElem?_modify_ne _ _ ne]

theorem length_workers_setQueue (queue : BoundedQueue (Job α)) :
    (d.setQueue number queue).workers.length = d.workers.length := by
  rw [setQueue, List.length_modify]

theorem map_capacity_setQueue (worker_eq : d.workers[number]? = some worker)
    {queue : BoundedQueue (Job α)} (capacity_eq : queue.capacity = worker.queue.capacity) :
    (d.setQueue number queue).workers.map (·.queue.capacity) =
      d.workers.map (·.queue.capacity) := by
  refine List.ext_getElem? fun other ↦ ?_
  rw [List.getElem?_map, List.getElem?_map]
  by_cases ne : number = other
  · rw [← ne, workers_setQueue_self worker_eq, worker_eq]
    exact congrArg some capacity_eq
  · rw [workers_setQueue_of_ne ne]

theorem withQueue_eq (worker_eq : d.workers[number]? = some worker)
    (operation : BoundedQueue (Job α) → Except DispatchError (BoundedQueue (Job α))) :
    d.withQueue number operation = (operation worker.queue).map (d.setQueue number) := by
  rw [withQueue, worker_eq]

theorem choose_lt (workers_pos : 0 < d.workers.length) (key : QueueKey) :
    d.choose key < d.workers.length :=
  Nat.mod_lt _ workers_pos

variable (worker_eq : d.workers[number]? = some worker) (sound : worker.queue.IsSound)

include worker_eq sound

/-- A queue takes a submission if and only if it fits. -/
theorem offer_eq {key : QueueKey} (key_eq : d.choose key = number) (a : α) :
    d.offer key a =
      if worker.queue.items.length < worker.queue.capacity then
        .ok (d.setQueue number (worker.queue.push (.submission a)))
      else .error .full := by
  rw [offer, key_eq, withQueue_eq worker_eq, sound.offer_eq]
  split <;> rfl

/-- What does not fit is dropped and counted. -/
theorem submit_eq {key : QueueKey} (key_eq : d.choose key = number) (a : α) :
    (d.submit key a).1 =
      if worker.queue.items.length < worker.queue.capacity then
        d.setQueue number (worker.queue.push (.submission a))
      else { d with dropped := d.dropped + 1 } := by
  rw [submit, offer_eq worker_eq sound key_eq]
  by_cases room : worker.queue.items.length < worker.queue.capacity
  · rw [if_pos room, if_pos room]
  · rw [if_neg room, if_neg room]

/-- Who waits is taken in, into the queue if there is room. -/
theorem enter_eq {key : QueueKey} (key_eq : d.choose key = number) (a : α) :
    d.enter key a =
      .ok (d.setQueue number
        (if worker.queue.items.length < worker.queue.capacity then
          worker.queue.push (.submission a)
        else worker.queue.join (.submission a))) := by
  rw [enter, key_eq, withQueue_eq worker_eq, sound.enter_eq]
  rfl

/-- A mark is taken in like a submission that waits. -/
theorem enterMark_eq (id : Nat) :
    d.enterMark id number =
      .ok (d.setQueue number
        (if worker.queue.items.length < worker.queue.capacity then worker.queue.push (.mark id)
        else worker.queue.join (.mark id))) := by
  rw [enterMark, withQueue_eq worker_eq, sound.enter_eq]
  rfl

end Dispatcher

namespace Dispatch

/-! ## Steps of workers -/

/-- The effect of a worker's step on the lists of a history. -/
structure Applies (effect : Effect Ticket) (h after : History) : Prop where
  arrived : after.arrived = h.arrived
  accepted : after.accepted = h.accepted ++ effect.admitted
  started : after.started = h.started ++ effect.started
  processed : after.processed = h.processed ++ effect.finished
  attempts : after.attempts = h.attempts ++ effect.written

namespace History

variable {h : History} {t : Ticket} {number : Nat} {worker : Worker Ticket}

theorem work_of_none (worker_eq : h.dispatcher.workers[number]? = none) : h.work number = h := by
  rw [work, worker_eq]

theorem dispatcher_work : (h.work number).dispatcher = (h.dispatcher.step number).1 := by
  cases worker_eq : h.dispatcher.workers[number]? with
  | none => rw [work_of_none worker_eq, Dispatcher.step, worker_eq]
  | some worker => rw [work, worker_eq]

theorem process?_work : (h.work number).dispatcher.process? = h.dispatcher.process? := by
  cases worker_eq : h.dispatcher.workers[number]? with
  | none => rw [work_of_none worker_eq]
  | some worker => rw [work, worker_eq, Dispatcher.step, worker_eq]

theorem hash_work : (h.work number).dispatcher.hash = h.dispatcher.hash := by
  cases worker_eq : h.dispatcher.workers[number]? with
  | none => rw [work_of_none worker_eq]
  | some worker => rw [work, worker_eq, Dispatcher.step, worker_eq]

theorem workers_work (worker_eq : h.dispatcher.workers[number]? = some worker) :
    (h.work number).dispatcher.workers = h.dispatcher.workers.set number
      (worker.step h.dispatcher.process? number h.dispatcher.sink).1 := by
  rw [work, worker_eq, Dispatcher.step, worker_eq]

theorem sink_work (worker_eq : h.dispatcher.workers[number]? = some worker) :
    (h.work number).dispatcher.sink =
      (worker.step h.dispatcher.process? number h.dispatcher.sink).2.1 := by
  rw [work, worker_eq, Dispatcher.step, worker_eq]

theorem writes_work (worker_eq : h.dispatcher.workers[number]? = some worker) :
    (h.work number).writes = h.writes ++
      (worker.effect h.dispatcher.process?).written.map fun (t, record) ↦ (some t, record) := by
  rw [work, worker_eq]

/-- A step of a worker has the effect of its move. -/
theorem applies_work (worker_eq : h.dispatcher.workers[number]? = some worker) :
    Applies (worker.effect h.dispatcher.process?) h (h.work number) := by
  rw [work, worker_eq]
  refine ⟨rfl, rfl, rfl, rfl, ?_⟩
  rw [attempts, attempts, List.filterMap_append, List.filterMap_map]
  exact congrArg (h.attempts ++ ·) List.filterMap_some

/-! ## Changes -/

/-- What an action can do.  A submission enters its queue if there is room, and joins those who
wait, is dropped or is refused if there is none; a mark enters or waits; a worker makes a step; and
somebody writes past the workers.  Where there is no worker with the number, nothing happens. -/
inductive Change (h : History) : Action → History → Prop
  | push {t : Ticket} {worker : Worker Ticket} (number_eq : t.number = h.made.length)
      (worker_eq : h.dispatcher.workers[h.dispatcher.choose t.key]? = some worker)
      (room : worker.queue.items.length < worker.queue.capacity) :
      Change h (.submit t.thread t.manner t.submission)
        { h with
          dispatcher := h.dispatcher.setQueue (h.dispatcher.choose t.key)
            (worker.queue.push (.submission t))
          made := h.made ++ [t]
          arrived := h.arrived ++ [t]
          accepted := h.accepted ++ [t] }
  | join {t : Ticket} {worker : Worker Ticket} (number_eq : t.number = h.made.length)
      (worker_eq : h.dispatcher.workers[h.dispatcher.choose t.key]? = some worker)
      (no_room : ¬ worker.queue.items.length < worker.queue.capacity)
      (manner_eq : t.manner = .waits) :
      Change h (.submit t.thread t.manner t.submission)
        { h with
          dispatcher := h.dispatcher.setQueue (h.dispatcher.choose t.key)
            (worker.queue.join (.submission t))
          made := h.made ++ [t]
          arrived := h.arrived ++ [t] }
  | drop {t : Ticket} {worker : Worker Ticket} (number_eq : t.number = h.made.length)
      (worker_eq : h.dispatcher.workers[h.dispatcher.choose t.key]? = some worker)
      (no_room : ¬ worker.queue.items.length < worker.queue.capacity)
      (manner_eq : t.manner = .drops) :
      Change h (.submit t.thread t.manner t.submission)
        { h with
          dispatcher := { h.dispatcher with dropped := h.dispatcher.dropped + 1 }
          made := h.made ++ [t]
          dropped := h.dropped ++ [t] }
  | refuse {t : Ticket} {worker : Worker Ticket} (number_eq : t.number = h.made.length)
      (worker_eq : h.dispatcher.workers[h.dispatcher.choose t.key]? = some worker)
      (no_room : ¬ worker.queue.items.length < worker.queue.capacity)
      (manner_eq : t.manner = .tries) :
      Change h (.submit t.thread t.manner t.submission)
        { h with made := h.made ++ [t], refused := h.refused ++ [(t, .full)] }
  | mark {id number : Nat} {worker : Worker Ticket}
      (worker_eq : h.dispatcher.workers[number]? = some worker) :
      Change h (.mark id number)
        { h with
          dispatcher := h.dispatcher.setQueue number
            (if worker.queue.items.length < worker.queue.capacity then worker.queue.push (.mark id)
            else worker.queue.join (.mark id)) }
  | strayMark {id number : Nat} (none_eq : h.dispatcher.workers[number]? = none) :
      Change h (.mark id number) h
  | work {number : Nat} {worker : Worker Ticket}
      (worker_eq : h.dispatcher.workers[number]? = some worker) :
      Change h (.work number) (h.work number)
  | strayWork {number : Nat} (none_eq : h.dispatcher.workers[number]? = none) :
      Change h (.work number) h
  | write {record : AuditRecord} :
      Change h (.write record)
        { h with
          dispatcher := (h.dispatcher.write record).2
          writes := h.writes ++ [(none, record)] }

/-- What a submission does, by the room in its queue and the way in which it is made. -/
theorem change_submit (worker_eq : h.dispatcher.workers[h.dispatcher.choose t.key]? = some worker)
    (sound : worker.queue.IsSound) (number_eq : t.number = h.made.length) :
    h.Change (.submit t.thread t.manner t.submission) (h.submit t) := by
  have offer_eq := Dispatcher.offer_eq worker_eq sound rfl t
  have submit_eq := Dispatcher.submit_eq worker_eq sound rfl t
  have enter_eq := Dispatcher.enter_eq worker_eq sound rfl t
  by_cases room : worker.queue.items.length < worker.queue.capacity
  · rw [if_pos room] at offer_eq submit_eq enter_eq
    have call_eq : t.manner.call t.key t h.dispatcher =
        h.dispatcher.setQueue (h.dispatcher.choose t.key) (worker.queue.push (.submission t)) := by
      cases t.manner with
      | drops => exact submit_eq
      | tries => rw [Manner.call, offer_eq]; rfl
      | waits => rw [Manner.call, enter_eq]; rfl
    rw [submit, offer_eq, call_eq]
    exact .push number_eq worker_eq room
  · rw [if_neg room] at offer_eq submit_eq enter_eq
    rw [submit, offer_eq]
    -- The goal has the value of the manner in place of the manner, in the action as well.
    cases manner_eq : t.manner with
    | drops =>
      have change := Change.drop number_eq worker_eq room manner_eq
      rw [manner_eq] at change
      rw [Manner.call, submit_eq]
      exact change
    | tries =>
      have change := Change.refuse number_eq worker_eq room manner_eq
      rw [manner_eq] at change
      rw [Manner.call, offer_eq]
      exact change
    | waits =>
      have change := Change.join number_eq worker_eq room manner_eq
      rw [manner_eq] at change
      rw [Manner.call, enter_eq]
      exact change

/-- If there are workers and their queues are sound, an action does one of these things. -/
theorem change_act (workers_pos : 0 < h.dispatcher.workers.length)
    (sound : ∀ worker ∈ h.dispatcher.workers, worker.queue.IsSound) (action : Action) :
    h.Change action (h.act action) := by
  cases action with
  | submit thread manner submission =>
    have worker_eq := List.getElem?_eq_getElem (Dispatcher.choose_lt workers_pos
      (Ticket.key ⟨h.made.length, thread, manner, submission⟩))
    exact change_submit worker_eq (sound _ (List.mem_of_getElem? worker_eq)) rfl
  | mark id number =>
    cases worker_eq : h.dispatcher.workers[number]? with
    | none =>
      rw [act, Dispatcher.enterMark, Dispatcher.withQueue, worker_eq]
      exact .strayMark worker_eq
    | some worker =>
      rw [act, Dispatcher.enterMark_eq worker_eq (sound worker (List.mem_of_getElem? worker_eq))]
      exact .mark worker_eq
  | work number =>
    cases worker_eq : h.dispatcher.workers[number]? with
    | none =>
      rw [act, work_of_none worker_eq]
      exact .strayWork worker_eq
    | some worker => exact .work worker_eq
  | write record => exact .write

end History

end Dispatch

end AuditTrail

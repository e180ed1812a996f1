import AuditTrail.Proofs.Dispatch.Actions

/-!
# Lanes

A lane is a worker with its queue, together with everything that was ever sent to it.  Whether a
submission goes to a lane is decided by its key alone, so that lanes do not meet: an action of a
caller or a step of a worker concerns one lane, and the others stay as they are.

The invariant of a lane says what stands between two stages.  Who arrived is accepted or waits, who
was accepted is started or queued, who was started is processed or worked on, and the records of
those who were started are written or remain to be written, each in this order.
-/

namespace AuditTrail

namespace Dispatch

/-! ## The invariant of a lane -/

/-- The submissions of a lane. -/
def onLane (route : QueueKey → Nat) (number : Nat) (tickets : List Ticket) : List Ticket :=
  tickets.filter fun t ↦ route t.key = number

/-- The writes of a lane. -/
def writesOnLane (route : QueueKey → Nat) (number : Nat) (writes : List (Ticket × AuditRecord)) :
    List (Ticket × AuditRecord) :=
  writes.filter fun write ↦ route write.1.key = number

section OnLane

variable {route : QueueKey → Nat} {number : Nat}

@[simp] theorem onLane_append (tickets more : List Ticket) :
    onLane route number (tickets ++ more) =
      onLane route number tickets ++ onLane route number more :=
  List.filter_append _ _

@[simp] theorem writesOnLane_append (writes more : List (Ticket × AuditRecord)) :
    writesOnLane route number (writes ++ more) =
      writesOnLane route number writes ++ writesOnLane route number more :=
  List.filter_append _ _

theorem onLane_eq_self {tickets : List Ticket} (on : ∀ t ∈ tickets, route t.key = number) :
    onLane route number tickets = tickets :=
  List.filter_eq_self.mpr fun t t_mem ↦ decide_eq_true (on t t_mem)

theorem onLane_eq_nil {tickets : List Ticket} (off : ∀ t ∈ tickets, route t.key ≠ number) :
    onLane route number tickets = [] :=
  List.filter_eq_nil_iff.mpr fun t t_mem on ↦ off t t_mem (of_decide_eq_true on)

theorem writesOnLane_eq_self {writes : List (Ticket × AuditRecord)}
    (on : ∀ write ∈ writes, route write.1.key = number) :
    writesOnLane route number writes = writes :=
  List.filter_eq_self.mpr fun write write_mem ↦ decide_eq_true (on write write_mem)

theorem writesOnLane_eq_nil {writes : List (Ticket × AuditRecord)}
    (off : ∀ write ∈ writes, route write.1.key ≠ number) :
    writesOnLane route number writes = [] :=
  List.filter_eq_nil_iff.mpr fun write write_mem on ↦ off write write_mem (of_decide_eq_true on)

theorem route_of_mem_onLane {tickets : List Ticket} {t : Ticket}
    (t_mem : t ∈ onLane route number tickets) : route t.key = number :=
  of_decide_eq_true (List.mem_filter.mp t_mem).2

/-- Who is in some list is in another one if on each lane the first list is a part of the other. -/
theorem mem_of_prefix_onLane {tickets others : List Ticket} {t : Ticket}
    (part : onLane route (route t.key) tickets <+: onLane route (route t.key) others)
    (t_mem : t ∈ tickets) : t ∈ others := by
  have t_on : t ∈ onLane route (route t.key) tickets :=
    List.mem_filter.mpr ⟨t_mem, decide_eq_true rfl⟩
  exact (List.mem_filter.mp (part.subset t_on)).1

/-- A class that is wholly on a lane is the same on the lane as it is in all lanes. -/
theorem filter_filter_of_imp {β : Type} {inClass on : β → Bool} {xs : List β}
    (imp : ∀ x ∈ xs, inClass x = true → on x = true) :
    (xs.filter on).filter inClass = xs.filter inClass := by
  rw [List.filter_filter]
  refine List.filter_congr fun x x_mem ↦ ?_
  cases in_eq : inClass x with
  | true =>
    rw [imp x x_mem in_eq]
    rfl
  | false => rfl

end OnLane

/-- What holds of a lane at all times. -/
structure Lane (process? : Ticket → Option Processing) (route : QueueKey → Nat) (h : History)
    (number : Nat) (worker : Worker Ticket) : Prop where
  sound : worker.queue.IsSound
  arrived : onLane route number h.arrived = onLane route number h.accepted ++ worker.awaiting
  accepted : onLane route number h.accepted = onLane route number h.started ++ worker.queued
  started : onLane route number h.started = onLane route number h.processed ++ worker.active
  attempts : (onLane route number h.started).flatMap (Worker.produced process?) =
    writesOnLane route number h.attempts ++ worker.remaining
  /-- Nobody waits but who has come to wait. -/
  waits : ∀ t ∈ worker.awaiting, t.manner = .waits

namespace Lane

variable {process? : Ticket → Option Processing} {route : QueueKey → Nat} {h after : History}
  {number other : Nat} {worker worker' : Worker Ticket} {effect : Effect Ticket}

/-- A lane stays as it is if nothing happens on it. -/
theorem congr (lane : Lane process? route h number worker)
    (arrived_eq : onLane route number after.arrived = onLane route number h.arrived)
    (accepted_eq : onLane route number after.accepted = onLane route number h.accepted)
    (started_eq : onLane route number after.started = onLane route number h.started)
    (processed_eq : onLane route number after.processed = onLane route number h.processed)
    (attempts_eq :
      writesOnLane route number after.attempts = writesOnLane route number h.attempts) :
    Lane process? route after number worker where
  sound := lane.sound
  arrived := by rw [arrived_eq, accepted_eq, lane.arrived]
  accepted := by rw [accepted_eq, started_eq, lane.accepted]
  started := by rw [started_eq, processed_eq, lane.started]
  attempts := by rw [started_eq, attempts_eq, lane.attempts]
  waits := lane.waits

section Route

variable (lane : Lane process? route h number worker)

include lane

theorem prefix_accepted : onLane route number h.accepted <+: onLane route number h.arrived :=
  ⟨_, lane.arrived.symm⟩

theorem prefix_started : onLane route number h.started <+: onLane route number h.accepted :=
  ⟨_, lane.accepted.symm⟩

theorem prefix_processed : onLane route number h.processed <+: onLane route number h.started :=
  ⟨_, lane.started.symm⟩

theorem prefix_attempts : writesOnLane route number h.attempts <+:
    (onLane route number h.started).flatMap (Worker.produced process?) :=
  ⟨_, lane.attempts.symm⟩

theorem route_of_awaiting {t : Ticket} (t_mem : t ∈ worker.awaiting) : route t.key = number :=
  route_of_mem_onLane (lane.arrived ▸ List.mem_append_right _ t_mem)

theorem route_of_queued {t : Ticket} (t_mem : t ∈ worker.queued) : route t.key = number :=
  route_of_mem_onLane (lane.accepted ▸ List.mem_append_right _ t_mem)

theorem route_of_active {t : Ticket} (t_mem : t ∈ worker.active) : route t.key = number :=
  route_of_mem_onLane (lane.started ▸ List.mem_append_right _ t_mem)

theorem route_of_remaining {write : Ticket × AuditRecord} (write_mem : write ∈ worker.remaining) :
    route write.1.key = number := by
  have produced_mem : write ∈ (onLane route number h.started).flatMap (Worker.produced process?) :=
    lane.attempts ▸ List.mem_append_right _ write_mem
  obtain ⟨t, t_mem, write_of_t⟩ := List.mem_flatMap.mp produced_mem
  rw [Worker.fst_of_mem_produced write_of_t]
  exact route_of_mem_onLane t_mem

variable (carries : effect.Carries (Worker.produced process?) worker worker')

include carries

/-- What a step of a worker moves is on its lane. -/
theorem route_of_admitted {t : Ticket} (t_mem : t ∈ effect.admitted) : route t.key = number :=
  lane.route_of_awaiting (carries.awaiting ▸ List.mem_append_left _ t_mem)

theorem route_of_started {t : Ticket} (t_mem : t ∈ effect.started) : route t.key = number := by
  have queue_mem : t ∈ worker.queued ++ effect.admitted :=
    carries.queued ▸ List.mem_append_left _ t_mem
  rcases List.mem_append.mp queue_mem with queued_mem | admitted_mem
  · exact lane.route_of_queued queued_mem
  · exact lane.route_of_admitted carries admitted_mem

theorem route_of_finished {t : Ticket} (t_mem : t ∈ effect.finished) : route t.key = number := by
  have task_mem : t ∈ worker.active ++ effect.started :=
    carries.active ▸ List.mem_append_left _ t_mem
  rcases List.mem_append.mp task_mem with active_mem | started_mem
  · exact lane.route_of_active active_mem
  · exact lane.route_of_started carries started_mem

theorem route_of_written {write : Ticket × AuditRecord} (write_mem : write ∈ effect.written) :
    route write.1.key = number := by
  have record_mem : write ∈ worker.remaining ++ effect.started.flatMap (Worker.produced process?) :=
    carries.remaining ▸ List.mem_append_left _ write_mem
  rcases List.mem_append.mp record_mem with remaining_mem | produced_mem
  · exact lane.route_of_remaining remaining_mem
  · obtain ⟨t, t_mem, write_of_t⟩ := List.mem_flatMap.mp produced_mem
    rw [Worker.fst_of_mem_produced write_of_t]
    exact lane.route_of_started carries t_mem

/-- A step of the lane's own worker keeps the lane. -/
theorem advance (applies : Applies effect h after) (sound : worker'.queue.IsSound) :
    Lane process? route after number worker' where
  sound := sound
  arrived := by
    rw [applies.arrived, applies.accepted, onLane_append,
      onLane_eq_self fun _ ↦ lane.route_of_admitted carries, lane.arrived, carries.awaiting,
      List.append_assoc]
  accepted := by
    rw [applies.accepted, applies.started, onLane_append, onLane_append,
      onLane_eq_self fun _ ↦ lane.route_of_admitted carries,
      onLane_eq_self fun _ ↦ lane.route_of_started carries, lane.accepted, List.append_assoc,
      carries.queued, List.append_assoc]
  started := by
    rw [applies.started, applies.processed, onLane_append, onLane_append,
      onLane_eq_self fun _ ↦ lane.route_of_started carries,
      onLane_eq_self fun _ ↦ lane.route_of_finished carries, lane.started, List.append_assoc,
      carries.active, List.append_assoc]
  attempts := by
    rw [applies.started, applies.attempts, onLane_append, writesOnLane_append,
      onLane_eq_self fun _ ↦ lane.route_of_started carries,
      writesOnLane_eq_self fun _ ↦ lane.route_of_written carries, List.flatMap_append,
      lane.attempts, List.append_assoc, carries.remaining, List.append_assoc]
  waits t t_mem := lane.waits t (carries.awaiting ▸ List.mem_append_right _ t_mem)

/-- A step of a worker keeps the lanes of the others. -/
theorem beside {worker₂ : Worker Ticket} (applies : Applies effect h after) (ne : number ≠ other)
    (other_lane : Lane process? route h other worker₂) :
    Lane process? route after other worker₂ := by
  have off {tickets : List Ticket} (on : ∀ t ∈ tickets, route t.key = number) :
      onLane route other tickets = [] :=
    onLane_eq_nil fun t t_mem other_eq ↦ ne ((on t t_mem).symm.trans other_eq)
  refine other_lane.congr (by rw [applies.arrived]) ?_ ?_ ?_ ?_
  · rw [applies.accepted, onLane_append, off fun _ ↦ lane.route_of_admitted carries,
      List.append_nil]
  · rw [applies.started, onLane_append, off fun _ ↦ lane.route_of_started carries, List.append_nil]
  · rw [applies.processed, onLane_append, off fun _ ↦ lane.route_of_finished carries,
      List.append_nil]
  · rw [applies.attempts, writesOnLane_append, writesOnLane_eq_nil fun write write_mem other_eq ↦
      ne ((lane.route_of_written carries write_mem).symm.trans other_eq), List.append_nil]

end Route

/-- A submission that fits is accepted behind everything that was accepted before it; nobody waits
who could be overtaken. -/
theorem push {t : Ticket} (lane : Lane process? route h number worker)
    (route_eq : route t.key = number) (room : worker.queue.items.length < worker.queue.capacity)
    (arrived_eq : after.arrived = h.arrived ++ [t])
    (accepted_eq : after.accepted = h.accepted ++ [t])
    (started_eq : after.started = h.started) (processed_eq : after.processed = h.processed)
    (attempts_eq : after.attempts = h.attempts) :
    Lane process? route after number
      { worker with queue := worker.queue.push (.submission t) } := by
  have t_on : onLane route number [t] = [t] :=
    onLane_eq_self (List.forall_mem_singleton.mpr route_eq)
  have awaiting_eq : worker.awaiting = [] := by
    rw [Worker.awaiting, lane.sound.waiting_eq_nil room]
    rfl
  have queued_eq : Worker.queued { worker with queue := worker.queue.push (.submission t) } =
      worker.queued ++ [t] := Job.submissions_append _ _
  refine ⟨lane.sound.push room, ?_, ?_, ?_, ?_, lane.waits⟩
  · change _ = _ ++ worker.awaiting
    rw [arrived_eq, accepted_eq, onLane_append, onLane_append, lane.arrived, awaiting_eq,
      List.append_nil, List.append_nil]
  · rw [accepted_eq, started_eq, queued_eq, onLane_append, t_on, lane.accepted, List.append_assoc]
  · rw [started_eq, processed_eq]
    exact lane.started
  · rw [started_eq, attempts_eq]
    exact lane.attempts

/-- A submission that has to wait does so behind everybody who waits already. -/
theorem join {t : Ticket} (lane : Lane process? route h number worker)
    (route_eq : route t.key = number) (waits : t.manner = .waits)
    (no_room : ¬ worker.queue.items.length < worker.queue.capacity)
    (arrived_eq : after.arrived = h.arrived ++ [t]) (accepted_eq : after.accepted = h.accepted)
    (started_eq : after.started = h.started) (processed_eq : after.processed = h.processed)
    (attempts_eq : after.attempts = h.attempts) :
    Lane process? route after number
      { worker with queue := worker.queue.join (.submission t) } := by
  have t_on : onLane route number [t] = [t] :=
    onLane_eq_self (List.forall_mem_singleton.mpr route_eq)
  have awaiting_eq : Worker.awaiting { worker with queue := worker.queue.join (.submission t) } =
      worker.awaiting ++ [t] := Job.submissions_append _ _
  refine ⟨lane.sound.join no_room, ?_, ?_, ?_, ?_, ?_⟩
  · rw [arrived_eq, accepted_eq, awaiting_eq, onLane_append, t_on, lane.arrived, List.append_assoc]
  · rw [accepted_eq, started_eq]
    exact lane.accepted
  · rw [started_eq, processed_eq]
    exact lane.started
  · rw [started_eq, attempts_eq]
    exact lane.attempts
  · intro other other_mem
    rw [awaiting_eq] at other_mem
    rcases List.mem_append.mp other_mem with awaiting_mem | t_mem
    · exact lane.waits other awaiting_mem
    · rw [List.mem_singleton.mp t_mem]
      exact waits

/-- A mark takes room in the queue and is no submission. -/
theorem mark (lane : Lane process? route h number worker) (id : Nat) :
    Lane process? route h number
      { worker with
        queue := if worker.queue.items.length < worker.queue.capacity then
          worker.queue.push (.mark id) else worker.queue.join (.mark id) } := by
  have submissions_eq (jobs : List (Job Ticket)) :
      Job.submissions (jobs ++ [.mark id]) = Job.submissions jobs := by
    rw [Job.submissions_append]
    exact List.append_nil _
  by_cases room : worker.queue.items.length < worker.queue.capacity
  · rw [if_pos room]
    refine ⟨lane.sound.push room, lane.arrived, ?_, lane.started, lane.attempts, lane.waits⟩
    rw [Worker.queued, BoundedQueue.push, submissions_eq]
    exact lane.accepted
  · rw [if_neg room]
    have awaiting_eq : Worker.awaiting { worker with queue := worker.queue.join (.mark id) } =
        worker.awaiting := submissions_eq _
    refine ⟨lane.sound.join room, ?_, lane.accepted, lane.started, lane.attempts, ?_⟩
    · rw [awaiting_eq]
      exact lane.arrived
    · rw [awaiting_eq]
      exact lane.waits

end Lane

/-! ## All lanes -/

/-- What holds of the lanes of a history at all times. -/
structure History.Lanes (process? : Ticket → Option Processing) (route : QueueKey → Nat)
    (h : History) : Prop where
  process_eq : h.dispatcher.process? = process?
  choose_eq : ∀ key, h.dispatcher.choose key = route key
  workers_pos : 0 < h.dispatcher.workers.length
  lane : ∀ number worker, h.dispatcher.workers[number]? = some worker →
    Lane process? route h number worker

namespace History.Lanes

variable {process? : Ticket → Option Processing} {route : QueueKey → Nat} {h : History}
  (lanes : h.Lanes process? route)

include lanes

theorem route_lt (key : QueueKey) : route key < h.dispatcher.workers.length :=
  lanes.choose_eq key ▸ Dispatcher.choose_lt lanes.workers_pos key

/-- Every key has a worker. -/
theorem exists_worker (key : QueueKey) :
    ∃ worker, h.dispatcher.workers[route key]? = some worker :=
  ⟨_, List.getElem?_eq_getElem (lanes.route_lt key)⟩

/-- An action that replaces one queue keeps the lanes if it keeps its own one and puts nothing on
the others. -/
theorem setQueue {after : History} {number : Nat} {worker : Worker Ticket}
    {queue : BoundedQueue (Job Ticket)}
    (worker_eq : h.dispatcher.workers[number]? = some worker)
    (dispatcher_eq : after.dispatcher = h.dispatcher.setQueue number queue)
    (own : Lane process? route after number { worker with queue })
    (others : ∀ other worker, number ≠ other → Lane process? route h other worker →
      Lane process? route after other worker) :
    after.Lanes process? route where
  process_eq := dispatcher_eq ▸ lanes.process_eq
  choose_eq key := by
    rw [dispatcher_eq, Dispatcher.choose, Dispatcher.length_workers_setQueue]
    exact lanes.choose_eq key
  workers_pos := by
    rw [dispatcher_eq, Dispatcher.length_workers_setQueue]
    exact lanes.workers_pos
  lane other worker' other_eq := by
    rw [dispatcher_eq] at other_eq
    by_cases ne : number = other
    · subst ne
      rw [Dispatcher.workers_setQueue_self worker_eq] at other_eq
      cases other_eq
      exact own
    · rw [Dispatcher.workers_setQueue_of_ne ne] at other_eq
      exact others other worker' ne (lanes.lane other worker' other_eq)

/-- An action that touches neither queues nor stages keeps the lanes. -/
theorem of_eq {after : History} (workers_eq : after.dispatcher.workers = h.dispatcher.workers)
    (process_eq : after.dispatcher.process? = h.dispatcher.process?)
    (hash_eq : after.dispatcher.hash = h.dispatcher.hash)
    (arrived_eq : after.arrived = h.arrived) (accepted_eq : after.accepted = h.accepted)
    (started_eq : after.started = h.started) (processed_eq : after.processed = h.processed)
    (attempts_eq : after.attempts = h.attempts) : after.Lanes process? route where
  process_eq := process_eq.trans lanes.process_eq
  choose_eq key := by
    rw [Dispatcher.choose, workers_eq, hash_eq]
    exact lanes.choose_eq key
  workers_pos := workers_eq ▸ lanes.workers_pos
  lane number worker worker_eq := by
    rw [workers_eq] at worker_eq
    refine (lanes.lane number worker worker_eq).congr ?_ ?_ ?_ ?_ ?_
    · rw [arrived_eq]
    · rw [accepted_eq]
    · rw [started_eq]
    · rw [processed_eq]
    · rw [attempts_eq]

theorem work {number : Nat} {worker : Worker Ticket}
    (worker_eq : h.dispatcher.workers[number]? = some worker) :
    (h.work number).Lanes process? route := by
  have lane := lanes.lane number worker worker_eq
  have applies := applies_work worker_eq
  have move := worker.move_step h.dispatcher.process? number h.dispatcher.sink
  have workers_eq := workers_work worker_eq
  rw [lanes.process_eq] at applies move workers_eq
  constructor
  case process_eq =>
    rw [process?_work]
    exact lanes.process_eq
  case choose_eq =>
    intro key
    rw [Dispatcher.choose, hash_work, workers_eq, List.length_set]
    exact lanes.choose_eq key
  case workers_pos =>
    rw [workers_eq, List.length_set]
    exact lanes.workers_pos
  case lane =>
    intro other worker' other_eq
    rw [workers_eq] at other_eq
    by_cases ne : number = other
    · subst ne
      rw [List.getElem?_set_self', worker_eq] at other_eq
      cases other_eq
      exact lane.advance move.carries applies (move.isSound lane.sound)
    · rw [List.getElem?_set_ne ne] at other_eq
      exact lane.beside move.carries applies ne (lanes.lane other worker' other_eq)

/-- Whatever happens keeps the lanes. -/
theorem of_change {action : Action} {after : History} (change : h.Change action after) :
    after.Lanes process? route := by
  have off {t : Ticket} {other : Nat} (ne : h.dispatcher.choose t.key ≠ other) :
      onLane route other [t] = [] :=
    onLane_eq_nil (List.forall_mem_singleton.mpr (lanes.choose_eq t.key ▸ ne))
  cases change with
  | push number_eq worker_eq room =>
    have lane := lanes.lane _ _ worker_eq
    refine lanes.setQueue worker_eq rfl
      (lane.push (lanes.choose_eq _).symm room rfl rfl rfl rfl rfl) ?_
    intro other worker' ne other_lane
    refine other_lane.congr ?_ ?_ rfl rfl rfl
    · rw [onLane_append, off ne, List.append_nil]
    · rw [onLane_append, off ne, List.append_nil]
  | join number_eq worker_eq no_room manner_eq =>
    have lane := lanes.lane _ _ worker_eq
    refine lanes.setQueue worker_eq rfl
      (lane.join (lanes.choose_eq _).symm manner_eq no_room rfl rfl rfl rfl rfl) ?_
    intro other worker' ne other_lane
    refine other_lane.congr ?_ rfl rfl rfl rfl
    rw [onLane_append, off ne, List.append_nil]
  | drop | refuse => exact lanes.of_eq rfl rfl rfl rfl rfl rfl rfl rfl
  | mark worker_eq =>
    refine lanes.setQueue worker_eq rfl ?_ fun other worker' _ other_lane ↦ ?_
    · exact ((lanes.lane _ _ worker_eq).mark _).congr rfl rfl rfl rfl rfl
    · exact other_lane.congr rfl rfl rfl rfl rfl
  | work worker_eq => exact lanes.work worker_eq
  | strayMark | strayWork => exact lanes
  | write =>
    refine lanes.of_eq rfl rfl rfl rfl rfl rfl rfl ?_
    rw [attempts, List.filterMap_append]
    exact List.append_nil _

/-- What an action does. -/
theorem change (action : Action) : h.Change action (h.act action) := by
  refine change_act lanes.workers_pos (fun worker worker_mem ↦ ?_) action
  obtain ⟨number, worker_eq⟩ := List.mem_iff_getElem?.mp worker_mem
  exact (lanes.lane number worker worker_eq).sound

/-- Every action keeps the lanes. -/
theorem act (action : Action) : (h.act action).Lanes process? route :=
  lanes.of_change (lanes.change action)

end History.Lanes

/-- The lane of a key in a dispatcher with a number of workers. -/
def laneOf (hash : QueueKey → Nat) (workers : Nat) (key : QueueKey) : Nat :=
  hash key % max workers 1

/-- At the start all lanes are empty. -/
theorem History.lanes_start (process? : Submission → Option Processing) (hash : QueueKey → Nat)
    (workers capacity : Nat) (sink : Sink) :
    (start process? hash workers capacity sink).Lanes (fun t ↦ process? t.submission)
      (laneOf hash workers) where
  process_eq := rfl
  choose_eq key := by
    rw [start, Dispatcher.start, Dispatcher.choose, List.length_replicate]
    rfl
  workers_pos := by
    rw [start, Dispatcher.start, List.length_replicate]
    exact Nat.lt_of_lt_of_le Nat.zero_lt_one (Nat.le_max_right workers 1)
  lane number worker worker_eq := by
    have worker_mem := List.mem_of_getElem? worker_eq
    rw [start, Dispatcher.start] at worker_mem
    rw [List.eq_of_mem_replicate worker_mem]
    exact ⟨BoundedQueue.isSound_empty (Nat.lt_of_lt_of_le Nat.zero_lt_one
      (Nat.le_max_right capacity 1)), rfl, rfl, rfl, rfl, List.forall_mem_nil _⟩

/-- The lanes hold after every run. -/
theorem History.lanes_run (process? : Submission → Option Processing) (hash : QueueKey → Nat)
    (workers capacity : Nat) (sink : Sink) (actions : List Action) :
    ((start process? hash workers capacity sink).run actions).Lanes (fun t ↦ process? t.submission)
      (laneOf hash workers) :=
  run_induction (lanes_start process? hash workers capacity sink)
    (fun _ action lanes ↦ lanes.act action) actions

/-- What holds at the start and is kept by every change holds after every run. -/
theorem History.run_induction_of_change {motive : History → Prop}
    {process? : Submission → Option Processing} {hash : QueueKey → Nat} {workers capacity : Nat}
    {sink : Sink} (start : motive (start process? hash workers capacity sink))
    (keeps : ∀ {h after : History} {action : Action},
      h.Change action after → motive h → motive after)
    (actions : List Action) :
    motive ((History.start process? hash workers capacity sink).run actions) := by
  refine (run_induction (motive := fun h ↦ h.Lanes (fun t ↦ process? t.submission)
    (laneOf hash workers) ∧ motive h) ?_ ?_ actions).2
  · exact ⟨lanes_start process? hash workers capacity sink, start⟩
  · rintro h action ⟨lanes, holds⟩
    exact ⟨lanes.act action, keeps (lanes.change action) holds⟩

end Dispatch

end AuditTrail

import AuditTrail.Proofs.Dispatch.Accounting

/-!
# Marks in queues

A mark stands behind everything that was sent to its worker before it.  Nothing overtakes in a
queue, and a worker takes the next job only after it has finished the last one, whether its writes
were refused or its task broke off.  So a worker acknowledges a mark only when everything that the
mark stands behind is done.

The invariant is about one mark and some submissions: as long as the mark is in the queue, each of
the submissions is done, is being worked on, or stands before the mark; and once the mark is
acknowledged, each of them is done.
-/

namespace AuditTrail

variable {α : Type}

/-! ## Queues -/

namespace BoundedQueue

variable {queue : BoundedQueue α} {a : α}

/-- What fits comes behind everything else, since nobody waits. -/
theorem IsSound.pending_push (sound : queue.IsSound) (room : queue.items.length < queue.capacity) :
    (queue.push a).pending = queue.pending ++ [a] := by
  simp only [pending, BoundedQueue.push, sound.waiting_eq_nil room, List.append_nil]

theorem pending_join : (queue.join a).pending = queue.pending ++ [a] :=
  (List.append_assoc _ _ _).symm

end BoundedQueue

/-! ## One worker -/

namespace Worker

/-- A mark stands behind some submissions. -/
structure MarkBehind (worker : Worker α) (done : List α) (id : Nat) (submissions : List α) :
    Prop where
  acknowledged : id ∈ worker.acknowledged → ∀ a ∈ submissions, a ∈ done
  pending : ∀ front rest, worker.queue.pending = front ++ .mark id :: rest →
    ∀ a ∈ submissions, a ∈ done ∨ a ∈ worker.active ∨ a ∈ Job.submissions front

/-- A mark that the worker has not met. -/
structure Unmarked (worker : Worker α) (id : Nat) : Prop where
  acknowledged : id ∉ worker.acknowledged
  pending : .mark id ∉ worker.queue.pending

theorem Unmarked.markBehind {worker : Worker α} {id : Nat} (unmarked : worker.Unmarked id)
    (done submissions : List α) : worker.MarkBehind done id submissions where
  acknowledged id_mem := absurd id_mem unmarked.acknowledged
  pending front _ pending_eq :=
    absurd (pending_eq ▸ List.mem_append_right front List.mem_cons_self) unmarked.pending

namespace MarkBehind

variable {worker after : Worker α} {done : List α} {id : Nat} {submissions : List α}

/-- More may be done elsewhere. -/
theorem mono (behind : worker.MarkBehind done id submissions) (more : List α) :
    worker.MarkBehind (done ++ more) id submissions where
  acknowledged id_mem a a_mem := List.mem_append_left more (behind.acknowledged id_mem a a_mem)
  pending front rest pending_eq a a_mem :=
    (behind.pending front rest pending_eq a a_mem).imp_left (List.mem_append_left more)

/-- A job that is sent to the worker comes behind everything else.  If it is the mark itself, the
submissions must have come before it. -/
theorem enqueue {queue : BoundedQueue (Job α)} {job : Job α}
    (behind : worker.MarkBehind done id submissions)
    (pending_eq : queue.pending = worker.queue.pending ++ [job])
    (own : job = .mark id → ∀ a ∈ submissions,
      a ∈ done ∨ a ∈ worker.active ∨ a ∈ Job.submissions worker.queue.pending) :
    Worker.MarkBehind { worker with queue } done id submissions where
  acknowledged := behind.acknowledged
  pending front rest split_eq := by
    change queue.pending = _ at split_eq
    rw [pending_eq] at split_eq
    rcases List.eq_nil_or_concat rest with rfl | ⟨init, last, rfl⟩
    · obtain ⟨rfl, job_eq⟩ := List.append_inj' split_eq rfl
      exact own (List.singleton_inj.mp job_eq)
    · rw [List.concat_eq_append, ← List.cons_append, ← List.append_assoc] at split_eq
      exact behind.pending front init (List.append_inj' split_eq rfl).1

/-- What a worker does next keeps the mark behind the submissions: it takes the job before all
others, and the mark only when it is at work on nothing. -/
theorem move {process? : α → Option Processing} {sink sink' : Sink} {effect : Effect α}
    (behind : worker.MarkBehind done id submissions)
    (move : Move process? worker sink effect after sink') :
    after.MarkBehind (done ++ effect.finished) id submissions := by
  have pending_eq {job : Job α} {items : List (Job α)}
      (items_eq : worker.queue.items = job :: items) :
      worker.queue.pending = job :: (worker.queue.taken items).pending :=
    BoundedQueue.pending_take? (BoundedQueue.take?_of_cons items_eq)
  have idle {a : α} (task_eq : worker.task = none) : a ∉ worker.active := by
    rw [active, task_eq]
    exact List.not_mem_nil
  have kept := behind.mono effect.finished
  cases move with
  | write task_eq =>
    refine ⟨kept.acknowledged, fun front rest split_eq a a_mem ↦ ?_⟩
    have place := kept.pending front rest split_eq a a_mem
    rwa [active, task_eq] at place
  | finish task_eq =>
    refine ⟨kept.acknowledged, fun front rest split_eq a a_mem ↦ ?_⟩
    have place := behind.pending front rest split_eq a a_mem
    rw [active, task_eq] at place
    rcases place with a_done | a_active | a_front
    · exact .inl (List.mem_append_left _ a_done)
    · exact .inl (List.mem_append_right _ a_active)
    · exact .inr (.inr a_front)
  | rest => exact kept
  | @acknowledge other items task_eq items_eq =>
    constructor
    · intro id_mem a a_mem
      rcases List.mem_cons.mp id_mem with rfl | id_mem
      · rcases kept.pending [] _ (pending_eq items_eq) a a_mem with a_done | a_active | a_front
        · exact a_done
        · exact absurd a_active (idle task_eq)
        · exact absurd a_front List.not_mem_nil
      · exact kept.acknowledged id_mem a a_mem
    · intro front rest split_eq a a_mem
      have place := kept.pending (.mark other :: front) rest
        ((pending_eq items_eq).trans (congrArg (_ :: ·) split_eq)) a a_mem
      rwa [active, task_eq] at place
  | @start b items processing task_eq items_eq =>
    refine ⟨kept.acknowledged, fun front rest split_eq a a_mem ↦ ?_⟩
    have place := kept.pending (.submission b :: front) rest
      ((pending_eq items_eq).trans (congrArg (_ :: ·) split_eq)) a a_mem
    rw [Job.submissions_cons] at place
    rcases place with a_done | a_active | a_front
    · exact .inl a_done
    · exact absurd a_active (idle task_eq)
    · exact .inr (List.mem_append.mp a_front)
  | @breakOff b items task_eq items_eq =>
    refine ⟨kept.acknowledged, fun front rest split_eq a a_mem ↦ ?_⟩
    have place := behind.pending (.submission b :: front) rest
      ((pending_eq items_eq).trans (congrArg (_ :: ·) split_eq)) a a_mem
    rw [Job.submissions_cons] at place
    rcases place with a_done | a_active | a_front
    · exact .inl (List.mem_append_left _ a_done)
    · exact absurd a_active (idle task_eq)
    · rcases List.mem_append.mp a_front with a_head | a_front
      · exact .inl (List.mem_append_right _ a_head)
      · exact .inr (.inr a_front)

end MarkBehind

namespace Move

variable {process? : α → Option Processing} {worker after : Worker α} {sink sink' : Sink}
  {effect : Effect α} (move : Move process? worker sink effect after sink')

include move

/-- What was acknowledged stays so. -/
theorem mem_acknowledged {id : Nat} (id_mem : id ∈ worker.acknowledged) :
    id ∈ after.acknowledged := by
  cases move with
  | acknowledge => exact List.mem_cons_of_mem _ id_mem
  | write | finish | rest | start | breakOff => exact id_mem

/-- A mark that was sent is met. -/
theorem mark_mem {id : Nat}
    (marked : id ∈ worker.acknowledged ∨ .mark id ∈ worker.queue.pending) :
    id ∈ after.acknowledged ∨ .mark id ∈ after.queue.pending := by
  rcases marked with id_mem | id_mem
  · exact .inl (move.mem_acknowledged id_mem)
  · have pending_of_cons {job : Job α} {items : List (Job α)}
        (items_eq : worker.queue.items = job :: items) :
        .mark id = job ∨ .mark id ∈ (worker.queue.taken items).pending := by
      rw [BoundedQueue.pending_take? (BoundedQueue.take?_of_cons items_eq)] at id_mem
      exact List.mem_cons.mp id_mem
    cases move with
    | write | finish | rest => exact .inr id_mem
    | acknowledge _ items_eq =>
      rcases pending_of_cons items_eq with mark_eq | pending_mem
      · cases mark_eq
        exact .inl List.mem_cons_self
      · exact .inr pending_mem
    | start _ items_eq | breakOff _ items_eq =>
      exact .inr ((pending_of_cons items_eq).resolve_left nofun)

/-- A worker meets no mark that it was not sent. -/
theorem unmarked {id : Nat} (unmarked : worker.Unmarked id) : after.Unmarked id := by
  have pending_of_cons {job : Job α} {items : List (Job α)}
      (items_eq : worker.queue.items = job :: items) :
      job ≠ .mark id ∧ .mark id ∉ (worker.queue.taken items).pending := by
    have pending := unmarked.pending
    rw [BoundedQueue.pending_take? (BoundedQueue.take?_of_cons items_eq)] at pending
    exact ⟨fun job_eq ↦ pending (job_eq ▸ List.mem_cons_self), mt (List.mem_cons_of_mem _) pending⟩
  cases move with
  | write | finish | rest => exact ⟨unmarked.acknowledged, unmarked.pending⟩
  | acknowledge _ items_eq =>
    obtain ⟨ne, pending⟩ := pending_of_cons items_eq
    refine ⟨fun id_mem ↦ ?_, pending⟩
    rcases List.mem_cons.mp id_mem with rfl | id_mem
    · exact ne rfl
    · exact unmarked.acknowledged id_mem
  | start _ items_eq | breakOff _ items_eq =>
    exact ⟨unmarked.acknowledged, (pending_of_cons items_eq).2⟩

end Move

end Worker

/-! ## All workers -/

namespace Dispatch.History

/-- A mark stands behind some submissions in the queue of each worker. -/
def MarkBehind (route : QueueKey → Nat) (h : History) (id : Nat) (tickets : List Ticket) : Prop :=
  ∀ (number : Nat) (worker : Worker Ticket), h.dispatcher.workers[number]? = some worker →
    worker.MarkBehind h.processed id (onLane route number tickets)

/-- No worker has met a mark. -/
def Unmarked (h : History) (id : Nat) : Prop :=
  ∀ (number : Nat) (worker : Worker Ticket), h.dispatcher.workers[number]? = some worker →
    worker.Unmarked id

/-- The worker with a number has acknowledged a mark. -/
def Acknowledged (h : History) (id number : Nat) : Prop :=
  ∃ worker, h.dispatcher.workers[number]? = some worker ∧ id ∈ worker.acknowledged

/-- The worker with a number has been sent a mark. -/
def Marked (h : History) (id number : Nat) : Prop :=
  ∃ worker, h.dispatcher.workers[number]? = some worker ∧
    (id ∈ worker.acknowledged ∨ .mark id ∈ worker.queue.pending)

/-- An idle worker has acknowledged every mark that it was sent. -/
theorem Marked.acknowledged {h : History} {id number : Nat} (marked : h.Marked id number)
    (idle : h.IsIdle number) : h.Acknowledged id number := by
  obtain ⟨worker, worker_eq, id_mem | id_mem⟩ := marked
  · exact ⟨worker, worker_eq, id_mem⟩
  · rw [(idle worker worker_eq).2] at id_mem
    exact absurd id_mem List.not_mem_nil

theorem Unmarked.markBehind_all {h : History} {id : Nat} (unmarked : h.Unmarked id)
    (route : QueueKey → Nat) (tickets : List Ticket) : h.MarkBehind route id tickets :=
  fun number worker worker_eq ↦ (unmarked number worker worker_eq).markBehind _ _

/-- What an action makes of a worker: it leaves the worker as it is, sends it a job, or lets it make
its next step. -/
inductive Lot (h after : History) (action : Action) (number : Nat) (worker : Worker Ticket) :
    Worker Ticket → Prop
  | same {more : List Ticket} (processed_eq : after.processed = h.processed ++ more) :
      Lot h after action number worker worker
  | sent {queue : BoundedQueue (Job Ticket)} {job : Job Ticket}
      (pending_eq : queue.pending = worker.queue.pending ++ [job])
      (mark : ∀ id, job = .mark id → action = .mark id number)
      (processed_eq : after.processed = h.processed) :
      Lot h after action number worker { worker with queue }
  | moved {next : Worker Ticket} {sink sink' : Sink} {effect : Effect Ticket}
      (move : Worker.Move h.dispatcher.process? worker sink effect next sink')
      (processed_eq : after.processed = h.processed ++ effect.finished) :
      Lot h after action number worker next

/-- The lot of each worker. -/
theorem Change.exists_lot {h after : History} {action : Action} (change : h.Change action after)
    {number : Nat} {worker : Worker Ticket}
    (worker_eq : h.dispatcher.workers[number]? = some worker) (sound : worker.queue.IsSound) :
    ∃ next, after.dispatcher.workers[number]? = some next ∧
      Lot h after action number worker next := by
  have same (more : List Ticket) (processed_eq : after.processed = h.processed ++ more)
      (workers_eq : after.dispatcher.workers[number]? = h.dispatcher.workers[number]?) :
      ∃ next, after.dispatcher.workers[number]? = some next ∧
        Lot h after action number worker next :=
    ⟨worker, workers_eq.trans worker_eq, .same processed_eq⟩
  have sent {other : Nat} {target : Worker Ticket} {queue : BoundedQueue (Job Ticket)}
      (job : Job Ticket)
      (target_eq : h.dispatcher.workers[other]? = some target)
      (dispatcher_eq : after.dispatcher = h.dispatcher.setQueue other queue)
      (processed_eq : after.processed = h.processed)
      (pending_eq : target.queue.IsSound → queue.pending = target.queue.pending ++ [job])
      (mark : ∀ id, job = .mark id → action = .mark id other) :
      ∃ next, after.dispatcher.workers[number]? = some next ∧
        Lot h after action number worker next := by
    by_cases ne : other = number
    · subst ne
      cases target_eq.symm.trans worker_eq
      refine ⟨_, ?_, .sent (pending_eq sound) mark processed_eq⟩
      rw [dispatcher_eq, Dispatcher.workers_setQueue_self worker_eq]
    · refine same [] (by rw [processed_eq, List.append_nil]) ?_
      rw [dispatcher_eq, Dispatcher.workers_setQueue_of_ne ne]
  cases change with
  | @push t _ _ target_eq room =>
    exact sent (.submission t) target_eq rfl rfl
      (fun target_sound ↦ target_sound.pending_push room) (fun _ job_eq ↦ nomatch job_eq)
  | @join t _ _ target_eq =>
    exact sent (.submission t) target_eq rfl rfl
      (fun _ ↦ BoundedQueue.pending_join) (fun _ job_eq ↦ nomatch job_eq)
  | @mark id _ _ target_eq =>
    refine sent (.mark id) target_eq rfl rfl (fun target_sound ↦ ?_) ?_
    · split
      next room => exact target_sound.pending_push room
      next => exact BoundedQueue.pending_join
    · rintro _ ⟨⟩
      rfl
  | @work other target target_eq =>
    have processed_eq := (applies_work target_eq).processed
    by_cases ne : other = number
    · subst ne
      cases target_eq.symm.trans worker_eq
      have move := worker.move_step h.dispatcher.process? other h.dispatcher.sink
      refine ⟨_, ?_, .moved move processed_eq⟩
      rw [workers_work worker_eq, List.getElem?_set_self', worker_eq]
      rfl
    · exact same _ processed_eq (workers_work_of_ne ne)
  | drop | refuse | strayMark | strayWork | write => exact same [] (List.append_nil _).symm rfl

/-- Callers and workers only ever add to what has happened. -/
theorem Change.arrived_subset {h after : History} {action : Action}
    (change : h.Change action after) : h.arrived ⊆ after.arrived := by
  cases change with
  | push | join => exact List.subset_append_left _ _
  | work worker_eq => rw [(applies_work worker_eq).arrived]; exact List.Subset.refl _
  | drop | refuse | mark | strayMark | strayWork | write => exact List.Subset.refl _

/-- The number of workers stays the same. -/
theorem Change.length_workers_eq {h after : History} {action : Action}
    (change : h.Change action after) :
    after.dispatcher.workers.length = h.dispatcher.workers.length := by
  have length_eq := congrArg List.length change.map_capacity_eq
  rwa [List.length_map, List.length_map] at length_eq

namespace Lanes

variable {process? : Ticket → Option Processing} {route : QueueKey → Nat} {h : History}
  (lanes : h.Lanes process? route)

include lanes

/-- Every worker has a lot in what happens next. -/
theorem exists_lot (action : Action) {number : Nat} {next : Worker Ticket}
    (next_eq : (h.act action).dispatcher.workers[number]? = some next) :
    ∃ worker, h.dispatcher.workers[number]? = some worker ∧
      Lot h (h.act action) action number worker next := by
  have number_lt := (List.getElem?_eq_some_iff.mp next_eq).1
  rw [(lanes.change action).length_workers_eq] at number_lt
  have worker_eq := List.getElem?_eq_getElem number_lt
  obtain ⟨other, other_eq, lot⟩ := (lanes.change action).exists_lot worker_eq
    (lanes.lane number _ worker_eq).sound
  rw [next_eq] at other_eq
  cases other_eq
  exact ⟨_, worker_eq, lot⟩

/-- Who arrived on a lane is done, is being worked on, or is pending. -/
theorem place_of_arrived {number : Nat} {worker : Worker Ticket}
    (worker_eq : h.dispatcher.workers[number]? = some worker) {t : Ticket}
    (t_mem : t ∈ onLane route number h.arrived) :
    t ∈ h.processed ∨ t ∈ worker.active ∨ t ∈ Job.submissions worker.queue.pending := by
  have lane := lanes.lane number worker worker_eq
  rw [lane.arrived, lane.accepted, lane.started, List.append_assoc, List.append_assoc,
    List.mem_append, List.mem_append, Worker.queued, Worker.awaiting,
    ← Job.submissions_append] at t_mem
  exact t_mem.imp_left fun processed_mem ↦ (List.mem_filter.mp processed_mem).1

/-- Whatever happens, a mark stays behind the submissions that had arrived before it. -/
theorem markBehind_act {id : Nat} {tickets : List Ticket} (arrived : tickets ⊆ h.arrived)
    (behind : h.MarkBehind route id tickets) (action : Action) :
    (h.act action).MarkBehind route id tickets := by
  intro number next next_eq
  obtain ⟨worker, worker_eq, lot⟩ := lanes.exists_lot action next_eq
  have worker_behind := behind number worker worker_eq
  cases lot with
  | same processed_eq =>
    rw [processed_eq]
    exact worker_behind.mono _
  | sent pending_eq _ processed_eq =>
    rw [processed_eq]
    refine worker_behind.enqueue pending_eq fun _ t t_mem ↦ ?_
    exact lanes.place_of_arrived worker_eq (List.filter_subset _ arrived t_mem)
  | moved move processed_eq =>
    rw [processed_eq]
    exact worker_behind.move move

/-- A mark comes to a worker only by being sent. -/
theorem unmarked_act {id : Nat} (unmarked : h.Unmarked id) {action : Action}
    (action_ne : ∀ number, action ≠ .mark id number) : (h.act action).Unmarked id := by
  intro number next next_eq
  obtain ⟨worker, worker_eq, lot⟩ := lanes.exists_lot action next_eq
  have worker_unmarked := unmarked number worker worker_eq
  cases lot with
  | same => exact worker_unmarked
  | @sent queue job pending_eq mark =>
    refine ⟨worker_unmarked.acknowledged, fun id_mem ↦ ?_⟩
    change _ ∈ queue.pending at id_mem
    rw [pending_eq] at id_mem
    rcases List.mem_append.mp id_mem with id_mem | id_mem
    · exact worker_unmarked.pending id_mem
    · exact action_ne number (mark id (List.mem_singleton.mp id_mem).symm)
  | moved move => exact move.unmarked worker_unmarked

/-- What was acknowledged stays so. -/
theorem acknowledged_act {id number : Nat} (acknowledged : h.Acknowledged id number)
    (action : Action) : (h.act action).Acknowledged id number := by
  obtain ⟨worker, worker_eq, id_mem⟩ := acknowledged
  obtain ⟨next, next_eq, lot⟩ := (lanes.change action).exists_lot worker_eq
    (lanes.lane number worker worker_eq).sound
  refine ⟨next, next_eq, ?_⟩
  cases lot with
  | same | sent => exact id_mem
  | moved move => exact move.mem_acknowledged id_mem

/-- What was sent has been sent. -/
theorem marked_act {id number : Nat} (marked : h.Marked id number) (action : Action) :
    (h.act action).Marked id number := by
  obtain ⟨worker, worker_eq, id_mem⟩ := marked
  obtain ⟨next, next_eq, lot⟩ := (lanes.change action).exists_lot worker_eq
    (lanes.lane number worker worker_eq).sound
  refine ⟨next, next_eq, ?_⟩
  cases lot with
  | same => exact id_mem
  | sent pending_eq =>
    rw [pending_eq]
    exact id_mem.imp_right (List.mem_append_left _)
  | moved move => exact move.mark_mem id_mem

/-- Once every worker has acknowledged a mark, everything that it stands behind is done. -/
theorem processed_of_acknowledged {id : Nat} {tickets : List Ticket}
    (behind : h.MarkBehind route id tickets)
    (acknowledged : ∀ number < h.dispatcher.workers.length, h.Acknowledged id number) :
    tickets ⊆ h.processed := by
  intro t t_mem
  obtain ⟨worker, worker_eq, id_mem⟩ := acknowledged (route t.key) (lanes.route_lt t.key)
  exact (behind _ worker worker_eq).acknowledged id_mem t
    (List.mem_filter.mpr ⟨t_mem, decide_eq_true rfl⟩)

end Lanes

end Dispatch.History

end AuditTrail

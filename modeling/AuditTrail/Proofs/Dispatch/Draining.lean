import Mathlib.Data.List.Perm.Basic
import AuditTrail.Proofs.Dispatch.Lane

/-!
# Draining

Every step of a worker that has something to do brings it one step nearer to being idle, and a sound
queue never leaves a worker idle with somebody waiting.  So the number of steps that a worker has
still to make is exactly the measure that the schedules of the dispatcher run by, and the schedule
of a shutdown is a run of workers' steps after which everybody is idle.

Once all workers are idle, who arrived is processed: this holds after the schedule of a shutdown and
after every other one that ends with idle workers.
-/

namespace AuditTrail

/-! ## Workers -/

namespace Worker

variable {α : Type} {process? : α → Option Processing}

theorem stepsToIdle_eq_zero_iff {worker : Worker α} :
    worker.stepsToIdle process? = 0 ↔ worker.task = none ∧ worker.queue.pending = [] := by
  have jobSteps_pos (job : Job α) : 0 < jobSteps process? job := by
    cases job with
    | mark id => exact Nat.zero_lt_one
    | submission a =>
      rw [jobSteps]
      cases process? a <;> exact Nat.succ_pos _
  constructor
  · intro none_left
    obtain ⟨task_steps, job_steps⟩ := Nat.add_eq_zero_iff.mp none_left
    constructor
    · cases task_eq : worker.task with
      | none => rfl
      | some task =>
        rw [task_eq, taskSteps] at task_steps
        exact absurd task_steps (Nat.succ_ne_zero _)
    · cases pending_eq : worker.queue.pending with
      | nil => rfl
      | cons job rest =>
        rw [pending_eq, List.foldr_cons] at job_steps
        exact absurd (Nat.add_eq_zero_iff.mp job_steps).1 (Nat.ne_of_gt (jobSteps_pos job))
  · rintro ⟨task_eq, pending_eq⟩
    rw [stepsToIdle, task_eq, pending_eq]
    rfl

/-- A step brings a worker one step nearer to being idle, unless it is. -/
theorem Move.stepsToIdle_eq {worker after : Worker α} {sink sink' : Sink} {effect : Effect α}
    (move : Move process? worker sink effect after sink') (sound : worker.queue.IsSound) :
    after.stepsToIdle process? = worker.stepsToIdle process? - 1 := by
  have pending_eq {job : Job α} {items : List (Job α)}
      (items_eq : worker.queue.items = job :: items) :
      worker.queue.pending = job :: (worker.queue.taken items).pending :=
    BoundedQueue.pending_take? (BoundedQueue.take?_of_cons items_eq)
  cases move with
  | write task_eq =>
    simp only [stepsToIdle, task_eq, taskSteps, List.length_cons]
    omega
  | finish task_eq =>
    simp only [stepsToIdle, task_eq, taskSteps, List.length_nil]
    omega
  | rest task_eq items_eq =>
    have idle : worker.stepsToIdle process? = 0 := stepsToIdle_eq_zero_iff.mpr
      ⟨task_eq, by rw [BoundedQueue.pending, items_eq, sound.waiting_of_items items_eq]; rfl⟩
    rw [idle]
  | acknowledge task_eq items_eq =>
    simp only [stepsToIdle, task_eq, taskSteps, pending_eq items_eq, List.foldr_cons, jobSteps]
    omega
  | start task_eq items_eq process_eq =>
    simp only [stepsToIdle, task_eq, taskSteps, pending_eq items_eq, List.foldr_cons, jobSteps,
      process_eq]
    omega
  | breakOff task_eq items_eq process_eq =>
    simp only [stepsToIdle, task_eq, taskSteps, pending_eq items_eq, List.foldr_cons, jobSteps,
      process_eq]
    omega

end Worker

/-! ## Schedules -/

/-- The state after every worker in turn has done something. -/
theorem Dispatcher.fst_forWorkers {α : Type}
    (activity : Nat → Dispatcher α → Dispatcher α × List Log.Event) (d : Dispatcher α) :
    (d.forWorkers activity).1 =
      (List.range d.workers.length).foldl (fun d number ↦ (activity number d).1) d :=
  (List.foldl_hom Prod.fst fun _ _ ↦ rfl).symm

namespace Dispatch

/-- The action is a step of a worker. -/
def Action.IsWork (action : Action) : Prop :=
  ∃ number, action = .work number

namespace History

/-- The worker with a number has nothing to do, nor is anybody waiting for it. -/
def IsIdle (h : History) (number : Nat) : Prop :=
  ∀ worker, h.dispatcher.workers[number]? = some worker →
    worker.task = none ∧ worker.queue.pending = []

/-- The steps with which a worker does everything that there is for it to do. -/
def drainActions (number : Nat) (h : History) : List Action :=
  match h.dispatcher.workers[number]? with
  | some worker => List.replicate (worker.stepsToIdle h.dispatcher.process?) (.work number)
  | none => []

variable {h : History} {number other : Nat}

theorem isWork_of_mem_drainActions {action : Action} (action_mem : action ∈ h.drainActions number) :
    action.IsWork := by
  rw [drainActions] at action_mem
  split at action_mem
  · exact ⟨number, List.eq_of_mem_replicate action_mem⟩
  · exact absurd action_mem List.not_mem_nil

theorem workers_work_of_ne (ne : number ≠ other) :
    (h.work number).dispatcher.workers[other]? = h.dispatcher.workers[other]? := by
  cases worker_eq : h.dispatcher.workers[number]? with
  | none => rw [work_of_none worker_eq]
  | some worker => rw [workers_work worker_eq, List.getElem?_set_ne ne]

/-- Steps of a worker in a history are steps of the dispatcher. -/
theorem dispatcher_run_replicate (n : Nat) (h : History) :
    (h.run (List.replicate n (.work number))).dispatcher = (h.dispatcher.steps number n).1 := by
  induction n generalizing h with
  | zero => rfl
  | succ n ih =>
    have rest_eq := ih (h.work number)
    rw [dispatcher_work] at rest_eq
    exact rest_eq

theorem workers_run_replicate_of_ne (ne : number ≠ other) (n : Nat) (h : History) :
    (h.run (List.replicate n (.work number))).dispatcher.workers[other]? =
      h.dispatcher.workers[other]? := by
  induction n generalizing h with
  | zero => rfl
  | succ n ih => exact (ih (h.work number)).trans (workers_work_of_ne ne)

theorem dispatcher_run_drainActions :
    (h.run (h.drainActions number)).dispatcher = (h.dispatcher.drainWorker number).1 := by
  cases worker_eq : h.dispatcher.workers[number]? with
  | none =>
    rw [drainActions, Dispatcher.drainWorker, worker_eq]
    rfl
  | some worker =>
    rw [drainActions, Dispatcher.drainWorker, worker_eq]
    exact dispatcher_run_replicate _ h

namespace Lanes

variable {process? : Ticket → Option Processing} {route : QueueKey → Nat}

/-- Lanes hold after every continuation of a run. -/
theorem run (lanes : h.Lanes process? route) (actions : List Action) :
    (h.run actions).Lanes process? route :=
  run_induction lanes (fun _ action lanes ↦ lanes.act action) actions

/-- Each of its steps brings a worker one step nearer to being idle. -/
theorem exists_worker_run_replicate (lanes : h.Lanes process? route) {worker : Worker Ticket}
    (worker_eq : h.dispatcher.workers[number]? = some worker) (n : Nat) :
    ∃ worker',
      (h.run (List.replicate n (.work number))).dispatcher.workers[number]? = some worker' ∧
      worker'.stepsToIdle process? = worker.stepsToIdle process? - n := by
  induction n generalizing h worker with
  | zero => exact ⟨worker, worker_eq, rfl⟩
  | succ n ih =>
    have move := worker.move_step h.dispatcher.process? number h.dispatcher.sink
    have next_eq : (h.work number).dispatcher.workers[number]? =
        some (worker.step h.dispatcher.process? number h.dispatcher.sink).1 := by
      rw [workers_work worker_eq, List.getElem?_set_self', worker_eq]
      rfl
    obtain ⟨worker', worker'_eq, steps_eq⟩ := ih (lanes.work worker_eq) next_eq
    refine ⟨worker', worker'_eq, ?_⟩
    rw [lanes.process_eq] at move steps_eq
    rw [steps_eq, move.stepsToIdle_eq (lanes.lane number worker worker_eq).sound]
    omega

/-- Draining a worker leaves it idle. -/
theorem isIdle_run_drainActions (lanes : h.Lanes process? route) :
    (h.run (h.drainActions number)).IsIdle number := by
  intro drained drained_eq
  cases worker_eq : h.dispatcher.workers[number]? with
  | none =>
    rw [drainActions, worker_eq, run_nil, worker_eq] at drained_eq
    cases drained_eq
  | some worker =>
    obtain ⟨worker', worker'_eq, steps_eq⟩ := lanes.exists_worker_run_replicate worker_eq
      (worker.stepsToIdle h.dispatcher.process?)
    simp only [drainActions, worker_eq] at drained_eq
    rw [worker'_eq] at drained_eq
    cases drained_eq
    rw [lanes.process_eq, Nat.sub_self] at steps_eq
    exact Worker.stepsToIdle_eq_zero_iff.mp steps_eq

/-- Draining a worker leaves the others as they are, idle or not. -/
theorem isIdle_run_drainActions_of_isIdle (lanes : h.Lanes process? route)
    (idle : h.IsIdle other) : (h.run (h.drainActions number)).IsIdle other := by
  by_cases ne : number = other
  · exact ne ▸ lanes.isIdle_run_drainActions
  · intro worker worker_eq
    refine idle worker ?_
    rw [drainActions] at worker_eq
    split at worker_eq
    · rwa [workers_run_replicate_of_ne ne] at worker_eq
    · exact worker_eq

/-- The schedule that drains some workers one after the other is a run of workers' steps after which
these workers are idle. -/
theorem exists_drain (lanes : h.Lanes process? route) (numbers : List Nat) :
    ∃ works : List Action, (∀ action ∈ works, action.IsWork) ∧
      (h.run works).dispatcher =
        numbers.foldl (fun d number ↦ (d.drainWorker number).1) h.dispatcher ∧
      ∀ number, number ∈ numbers ∨ h.IsIdle number → (h.run works).IsIdle number := by
  induction numbers generalizing h with
  | nil =>
    refine ⟨[], List.forall_mem_nil _, rfl, ?_⟩
    rintro number (number_mem | idle)
    · exact absurd number_mem List.not_mem_nil
    · exact idle
  | cons number rest ih =>
    obtain ⟨works, all_work, dispatcher_eq, idle⟩ := ih (lanes.run (h.drainActions number))
    refine ⟨h.drainActions number ++ works, ?_, ?_, ?_⟩
    · intro action action_mem
      rcases List.mem_append.mp action_mem with drain_mem | works_mem
      · exact isWork_of_mem_drainActions drain_mem
      · exact all_work action works_mem
    · rw [run_append, dispatcher_eq, List.foldl_cons, dispatcher_run_drainActions]
    · intro other other_idle
      rw [run_append]
      refine idle other ?_
      rcases other_idle with other_mem | other_idle
      · rcases List.mem_cons.mp other_mem with rfl | rest_mem
        · exact .inr lanes.isIdle_run_drainActions
        · exact .inl rest_mem
      · exact .inr (lanes.isIdle_run_drainActions_of_isIdle other_idle)

end Lanes

/-- The steps of workers do not change what callers have made and were told. -/
theorem run_of_isWork {works : List Action} (all_work : ∀ action ∈ works, action.IsWork)
    (h : History) :
    (h.run works).made = h.made ∧ (h.run works).arrived = h.arrived ∧
      (h.run works).dropped = h.dropped ∧ (h.run works).refused = h.refused := by
  induction works generalizing h with
  | nil => exact ⟨rfl, rfl, rfl, rfl⟩
  | cons action rest ih =>
    obtain ⟨number, rfl⟩ := all_work action List.mem_cons_self
    have rest_work : ∀ action ∈ rest, action.IsWork :=
      fun action action_mem ↦ all_work action (List.mem_cons_of_mem _ action_mem)
    obtain ⟨made_eq, arrived_eq, dropped_eq, refused_eq⟩ := ih rest_work (h.work number)
    have work_eq : (h.work number).made = h.made ∧ (h.work number).arrived = h.arrived ∧
        (h.work number).dropped = h.dropped ∧ (h.work number).refused = h.refused := by
      rw [work]
      split <;> exact ⟨rfl, rfl, rfl, rfl⟩
    exact ⟨made_eq.trans work_eq.1, arrived_eq.trans work_eq.2.1, dropped_eq.trans work_eq.2.2.1,
      refused_eq.trans work_eq.2.2.2⟩

end History

/-! ## Putting lanes together -/

section Perm

variable (route : QueueKey → Nat)

theorem flatMap_onLane_singleton (t : Ticket) (n : Nat) :
    ((List.range n).flatMap fun number ↦ onLane route number [t]) =
      if route t.key < n then [t] else [] := by
  induction n with
  | zero => rfl
  | succ n ih =>
    rw [List.range_succ, List.flatMap_append, ih, List.flatMap_singleton]
    by_cases lt : route t.key < n
    · rw [if_pos lt, if_pos (Nat.lt_succ_of_lt lt), onLane_eq_nil, List.append_nil]
      exact List.forall_mem_singleton.mpr (Nat.ne_of_lt lt)
    · rw [if_neg lt, List.nil_append]
      by_cases eq : route t.key = n
      · rw [if_pos (eq ▸ Nat.lt_succ_self _), onLane_eq_self]
        exact List.forall_mem_singleton.mpr eq
      · rw [if_neg (by omega), onLane_eq_nil]
        exact List.forall_mem_singleton.mpr eq

variable {route} {n : Nat} (route_lt : ∀ key, route key < n)

include route_lt

/-- Some submissions are those of the lanes, put together. -/
theorem flatMap_onLane_perm (tickets : List Ticket) :
    ((List.range n).flatMap fun number ↦ onLane route number tickets).Perm tickets := by
  induction tickets with
  | nil => exact List.Perm.of_eq (List.flatMap_eq_nil_iff.mpr fun _ _ ↦ rfl)
  | cons t rest ih =>
    have split_eq (number : Nat) : onLane route number (t :: rest) =
        onLane route number [t] ++ onLane route number rest := onLane_append [t] rest
    simp only [split_eq]
    refine (List.flatMap_append_perm _ _ _).symm.trans ?_
    rw [flatMap_onLane_singleton, if_pos (route_lt t.key)]
    exact ih.cons t

/-- Submissions that agree on every lane are the same ones. -/
theorem perm_of_onLane {tickets others : List Ticket}
    (same : ∀ number < n, onLane route number tickets = onLane route number others) :
    tickets.Perm others := by
  refine (flatMap_onLane_perm route_lt tickets).symm.trans ?_
  rw [List.flatMap_congr fun number number_mem ↦ same number (List.mem_range.mp number_mem)]
  exact flatMap_onLane_perm route_lt others

end Perm

/-- When all workers are idle, who arrived has been processed. -/
theorem History.Lanes.processed_perm_arrived {process? : Ticket → Option Processing}
    {route : QueueKey → Nat} {h : History} (lanes : h.Lanes process? route)
    (idle : ∀ number, h.IsIdle number) : h.processed.Perm h.arrived := by
  refine perm_of_onLane lanes.route_lt fun number number_lt ↦ ?_
  have worker_eq := List.getElem?_eq_getElem number_lt
  have lane := lanes.lane number _ worker_eq
  obtain ⟨task_eq, pending_eq⟩ := idle number _ worker_eq
  obtain ⟨items_eq, waiting_eq⟩ := List.append_eq_nil_iff.mp pending_eq
  rw [lane.arrived, lane.accepted, lane.started, Worker.awaiting, Worker.queued, Worker.active,
    task_eq, items_eq, waiting_eq]
  simp [Job.submissions]

end Dispatch

end AuditTrail

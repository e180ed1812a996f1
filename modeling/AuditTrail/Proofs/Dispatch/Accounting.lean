import Mathlib.Data.List.Nodup
import Mathlib.Data.List.Pairwise
import AuditTrail.Proofs.Dispatch.Draining
import AuditTrail.Proofs.Dispatch.Erasure
import AuditTrail.Proofs.Dispatch.Order

/-!
# What becomes of submissions

At every moment of every run each submission that was made is in exactly one situation, and in it
once: processed, in progress, in a queue, waiting for room, dropped or refused.  The lanes account
for those that arrived, and the books of the callers for those that were turned away: a submission
is dropped and counted, or refused and not counted, exactly if its queue is full when it is made.

After a shutdown only the first and the last two situations are left.
-/

namespace AuditTrail

namespace Dispatch

/-- Where a submission can be. -/
inductive Situation where
  | processed
  /-- A worker is at work on it. -/
  | inProgress (worker : Nat)
  | queued (worker : Nat)
  /-- Its caller waits for room in a queue. -/
  | waiting (worker : Nat)
  | dropped
  | refused
  deriving DecidableEq, Repr

/-- Where a submission goes for which there is no room. -/
def Manner.withoutRoom (worker : Nat) : Manner → Situation
  | drops => .dropped
  | tries => .refused
  | waits => .waiting worker

namespace History

/-- The submissions in a situation. -/
def inSituation (h : History) : Situation → List Ticket
  | .processed => h.processed
  | .inProgress worker => (h.dispatcher.workers[worker]?).elim [] Worker.active
  | .queued worker => (h.dispatcher.workers[worker]?).elim [] Worker.queued
  | .waiting worker => (h.dispatcher.workers[worker]?).elim [] Worker.awaiting
  | .dropped => h.dropped
  | .refused => h.refused.map (·.1)

/-- All situations with some number of workers. -/
def situations (workers : Nat) : List Situation :=
  .processed :: ((List.range workers).flatMap fun worker ↦
    [.inProgress worker, .queued worker, .waiting worker]) ++ [.dropped, .refused]

/-- A situation in which somebody is, is one of those that there are. -/
theorem mem_situations_of_mem {h : History} {situation : Situation} {t : Ticket}
    (t_mem : t ∈ h.inSituation situation) :
    situation ∈ situations h.dispatcher.workers.length := by
  have worker_lt {number : Nat} {tickets : Worker Ticket → List Ticket}
      (t_mem : t ∈ (h.dispatcher.workers[number]?).elim [] tickets) :
      number < h.dispatcher.workers.length := by
    by_contra not_lt
    rw [List.getElem?_eq_none (Nat.not_lt.mp not_lt)] at t_mem
    exact absurd t_mem List.not_mem_nil
  have lane_mem {number : Nat} (lt : number < h.dispatcher.workers.length) {situation : Situation}
      (situation_mem : situation ∈ [.inProgress number, .queued number, .waiting number]) :
      situation ∈ situations h.dispatcher.workers.length := by
    refine List.mem_append_left _ (List.mem_cons_of_mem _ ?_)
    exact List.mem_flatMap.mpr ⟨number, List.mem_range.mpr lt, situation_mem⟩
  cases situation with
  | processed => exact List.mem_append_left _ List.mem_cons_self
  | inProgress number => exact lane_mem (worker_lt t_mem) (by simp)
  | queued number => exact lane_mem (worker_lt t_mem) (by simp)
  | waiting number => exact lane_mem (worker_lt t_mem) (by simp)
  | dropped => exact List.mem_append_right _ (by simp)
  | refused => exact List.mem_append_right _ (by simp)

/-! ## The books of the callers -/

/-- What holds at all times of the submissions that were turned away. -/
structure Books (h : History) : Prop where
  /-- Submissions are told apart by their numbers. -/
  numbers : h.made.map (·.number) = List.range h.made.length
  made : h.made.Perm (h.arrived ++ (h.dropped ++ h.refused.map (·.1)))
  count : h.dispatcher.dropped = h.dropped.length
  dropped : ∀ t ∈ h.dropped, t.manner = .drops
  refused : ∀ entry ∈ h.refused, entry.1.manner = .tries ∧ entry.2 = .full

theorem books_start (process? : Submission → Option Processing) (hash : QueueKey → Nat)
    (workers capacity : Nat) (sink : Sink) : (start process? hash workers capacity sink).Books where
  numbers := rfl
  made := List.Perm.refl _
  count := rfl
  dropped := List.forall_mem_nil _
  refused := List.forall_mem_nil _

/-- Whatever happens keeps the books. -/
theorem Change.books {h after : History} {action : Action} (change : h.Change action after)
    (books : h.Books) : after.Books := by
  have numbers {t : Ticket} (number_eq : t.number = h.made.length) :
      (h.made ++ [t]).map (·.number) = List.range (h.made ++ [t]).length := by
    rw [List.map_append, books.numbers, List.length_append, List.length_singleton,
      List.range_succ, List.map_singleton, number_eq]
  have insert_perm (t : Ticket) (before after : List Ticket)
      (made : h.made.Perm (before ++ after)) :
      (h.made ++ [t]).Perm ((before ++ [t]) ++ after) := by
    rw [List.append_assoc]
    refine (made.append_right [t]).trans ?_
    rw [List.append_assoc]
    exact List.perm_append_comm.append_left before
  cases change with
  | push number_eq | join number_eq =>
    exact ⟨numbers number_eq, insert_perm _ _ _ books.made, books.count, books.dropped,
      books.refused⟩
  | @drop t _ number_eq _ _ manner_eq =>
    constructor
    case numbers => exact numbers number_eq
    case made =>
      have made := insert_perm t (h.arrived ++ h.dropped) _ (List.append_assoc _ _ _ ▸ books.made)
      rwa [List.append_assoc, List.append_assoc, ← List.append_assoc h.dropped] at made
    case count =>
      rw [List.length_append, books.count]
      rfl
    case dropped =>
      exact List.forall_mem_append.mpr ⟨books.dropped, List.forall_mem_singleton.mpr manner_eq⟩
    case refused => exact books.refused
  | @refuse t _ number_eq _ _ manner_eq =>
    constructor
    case numbers => exact numbers number_eq
    case made =>
      have made := insert_perm t (h.arrived ++ (h.dropped ++ h.refused.map (·.1))) []
        (List.append_nil _ ▸ books.made)
      rw [List.append_nil, List.append_assoc, List.append_assoc] at made
      rwa [List.map_append]
    case count => exact books.count
    case dropped => exact books.dropped
    case refused =>
      exact List.forall_mem_append.mpr
        ⟨books.refused, List.forall_mem_singleton.mpr ⟨manner_eq, rfl⟩⟩
  | work worker_eq =>
    rw [History.work, worker_eq, Dispatcher.step, worker_eq]
    exact ⟨books.numbers, books.made, books.count, books.dropped, books.refused⟩
  | mark | write => exact ⟨books.numbers, books.made, books.count, books.dropped, books.refused⟩
  | strayMark | strayWork => exact books

theorem books_run (process? : Submission → Option Processing) (hash : QueueKey → Nat)
    (workers capacity : Nat) (sink : Sink) (actions : List Action) :
    ((start process? hash workers capacity sink).run actions).Books :=
  run_induction_of_change (books_start process? hash workers capacity sink)
    (fun change books ↦ change.books books) actions

/-! ## Exactly one situation -/

namespace Lanes

variable {process? : Ticket → Option Processing} {route : QueueKey → Nat} {h : History}
  (lanes : h.Lanes process? route)

include lanes

/-- The submissions in all situations together are those that arrived or were turned away. -/
theorem flatMap_situations_perm :
    ((situations h.dispatcher.workers.length).flatMap h.inSituation).Perm
      (h.arrived ++ (h.dropped ++ h.refused.map (·.1))) := by
  have lane_eq : ∀ number ∈ List.range h.dispatcher.workers.length,
      onLane route number h.arrived = onLane route number h.processed ++
        [.inProgress number, .queued number, .waiting number].flatMap h.inSituation := by
    intro number number_mem
    have worker_eq := List.getElem?_eq_getElem (List.mem_range.mp number_mem)
    have lane := lanes.lane number _ worker_eq
    rw [lane.arrived, lane.accepted, lane.started]
    simp only [List.flatMap_cons, List.flatMap_nil, inSituation, worker_eq, Option.elim_some,
      List.append_assoc, List.append_nil]
  have arrived_perm : (h.processed ++ (List.range h.dispatcher.workers.length).flatMap fun number ↦
      [.inProgress number, .queued number, .waiting number].flatMap h.inSituation).Perm
        h.arrived := by
    refine ((flatMap_onLane_perm lanes.route_lt h.processed).symm.append_right _).trans ?_
    refine (List.flatMap_append_perm _ _ _).trans ?_
    rw [← List.flatMap_congr lane_eq]
    exact flatMap_onLane_perm lanes.route_lt h.arrived
  have situations_eq : (situations h.dispatcher.workers.length).flatMap h.inSituation =
      (h.processed ++ (List.range h.dispatcher.workers.length).flatMap fun number ↦
        [.inProgress number, .queued number, .waiting number].flatMap h.inSituation) ++
          (h.dropped ++ h.refused.map (·.1)) := by
    rw [situations, List.flatMap_append, List.flatMap_cons, List.flatMap_assoc]
    simp only [List.flatMap_cons, List.flatMap_nil, List.append_nil, inSituation]
  rw [situations_eq]
  exact arrived_perm.append_right _

end Lanes

/-- Everything that is made is in exactly one situation, and in it once. -/
structure Placed (h : History) : Prop where
  made_nodup : h.made.Nodup
  situation : ∀ t ∈ h.made, ∃! situation, t ∈ h.inSituation situation
  nodup : ∀ situation, (h.inSituation situation).Nodup
  mem_made : ∀ situation, ∀ t ∈ h.inSituation situation, t ∈ h.made

theorem Books.made_nodup {h : History} (books : h.Books) : h.made.Nodup :=
  (books.numbers ▸ List.nodup_range).of_map _

/-- Two submissions with the same number are the same. -/
theorem Books.eq_of_number {h : History} (books : h.Books) {t u : Ticket} (t_mem : t ∈ h.made)
    (u_mem : u ∈ h.made) (number_eq : t.number = u.number) : t = u :=
  List.inj_on_of_nodup_map (books.numbers ▸ List.nodup_range) t_mem u_mem number_eq

theorem Lanes.placed {process? : Ticket → Option Processing} {route : QueueKey → Nat} {h : History}
    (lanes : h.Lanes process? route) (books : h.Books) : h.Placed := by
  have made_perm : h.made.Perm ((situations h.dispatcher.workers.length).flatMap h.inSituation) :=
    books.made.trans lanes.flatMap_situations_perm.symm
  obtain ⟨each_nodup, disjoint⟩ := List.nodup_flatMap.mp (made_perm.nodup books.made_nodup)
  have apart {s₁ s₂ : Situation} (s₁_mem : s₁ ∈ situations h.dispatcher.workers.length)
      (s₂_mem : s₂ ∈ situations h.dispatcher.workers.length) (ne : s₁ ≠ s₂) :
      List.Disjoint (h.inSituation s₁) (h.inSituation s₂) := by
    have symmetric : Std.Symm (Function.onFun List.Disjoint h.inSituation) :=
      ⟨fun _ _ apart t t_mem₂ t_mem₁ ↦ apart t_mem₁ t_mem₂⟩
    exact disjoint.forall s₁_mem s₂_mem ne
  constructor
  case made_nodup => exact books.made_nodup
  case situation =>
    intro t t_mem
    obtain ⟨situation, situation_mem, t_in⟩ := List.mem_flatMap.mp (made_perm.mem_iff.mp t_mem)
    refine ⟨situation, t_in, fun other t_in_other ↦ ?_⟩
    by_contra ne
    exact apart (mem_situations_of_mem t_in_other) situation_mem ne t_in_other t_in
  case nodup =>
    intro situation
    rcases tickets_eq : h.inSituation situation with _ | ⟨t, rest⟩
    · exact List.nodup_nil
    · have t_mem : t ∈ h.inSituation situation := tickets_eq ▸ List.mem_cons_self
      exact tickets_eq ▸ each_nodup situation (mem_situations_of_mem t_mem)
  case mem_made =>
    intro situation t t_mem
    exact made_perm.mem_iff.mpr
      (List.mem_flatMap.mpr ⟨situation, mem_situations_of_mem t_mem, t_mem⟩)

/-! ## What is written -/

/-- The records that were written for the submission with a number. -/
def writesFor (number : Nat) (h : History) : List AuditRecord :=
  (h.attempts.filter fun write ↦ write.1.number = number).map (·.2)

namespace Lanes

variable {process? : Ticket → Option Processing} {route : QueueKey → Nat} {h : History}
  (lanes : h.Lanes process? route)

include lanes

/-- Who was accepted has arrived. -/
theorem mem_arrived_of_accepted {t : Ticket} (t_mem : t ∈ h.accepted) : t ∈ h.arrived := by
  obtain ⟨worker, worker_eq⟩ := lanes.exists_worker t.key
  exact mem_of_prefix_onLane (lanes.lane _ worker worker_eq).prefix_accepted t_mem

/-- Who was started has been accepted. -/
theorem mem_accepted_of_started {t : Ticket} (t_mem : t ∈ h.started) : t ∈ h.accepted := by
  obtain ⟨worker, worker_eq⟩ := lanes.exists_worker t.key
  exact mem_of_prefix_onLane (lanes.lane _ worker worker_eq).prefix_started t_mem

/-- Who was processed has been started. -/
theorem mem_started_of_processed {t : Ticket} (t_mem : t ∈ h.processed) : t ∈ h.started := by
  obtain ⟨worker, worker_eq⟩ := lanes.exists_worker t.key
  exact mem_of_prefix_onLane (lanes.lane _ worker worker_eq).prefix_processed t_mem

/-- Nothing is written for a submission that was not started. -/
theorem mem_started_of_attempt {write : Ticket × AuditRecord} (write_mem : write ∈ h.attempts) :
    write.1 ∈ h.started := by
  obtain ⟨worker, worker_eq⟩ := lanes.exists_worker write.1.key
  have lane := lanes.lane _ worker worker_eq
  have write_on : write ∈ writesOnLane route (route write.1.key) h.attempts :=
    List.mem_filter.mpr ⟨write_mem, decide_eq_true rfl⟩
  obtain ⟨t, t_mem, write_of_t⟩ := List.mem_flatMap.mp (lane.prefix_attempts.subset write_on)
  rw [Worker.fst_of_mem_produced write_of_t]
  exact (List.mem_filter.mp t_mem).1

section Books

variable (books : h.Books) {t : Ticket}

include books

/-- Who was started has been made. -/
theorem mem_made_of_started (t_mem : t ∈ h.started) : t ∈ h.made :=
  books.made.mem_iff.mpr (List.mem_append_left _ (lanes.mem_arrived_of_accepted
    (lanes.mem_accepted_of_started t_mem)))

/-- A submission that was started is told apart by its number from all others that were. -/
theorem eq_of_started {u : Ticket} (t_mem : t ∈ h.started) (u_mem : u ∈ h.started)
    (number_eq : u.number = t.number) : u = t :=
  books.eq_of_number (lanes.mem_made_of_started books u_mem)
    (lanes.mem_made_of_started books t_mem) number_eq

/-- Nothing is started twice on a lane. -/
theorem nodup_started (key : QueueKey) : (onLane route (route key) h.started).Nodup := by
  obtain ⟨worker, worker_eq⟩ := lanes.exists_worker key
  have lane := lanes.lane _ worker worker_eq
  have arrived_nodup : (onLane route (route key) h.arrived).Nodup :=
    ((List.nodup_append.mp (books.made.nodup books.made_nodup)).1).filter _
  rw [lane.arrived, lane.accepted] at arrived_nodup
  exact (List.nodup_append.mp (List.nodup_append.mp arrived_nodup).1).1

/-- What has been written for a submission and what its worker has still to write for it are the
records of the submission, each once and in order. -/
theorem writesFor_append_remaining (t_mem : t ∈ h.started) {worker : Worker Ticket}
    (worker_eq : h.dispatcher.workers[route t.key]? = some worker) :
    h.writesFor t.number ++
        (worker.remaining.filter fun write ↦ write.1.number = t.number).map (·.2) =
      Worker.records process? t := by
  have lane := lanes.lane _ worker worker_eq
  have started_eq : ((onLane route (route t.key) h.started).filter fun u ↦ u.number = t.number) =
      [t] := by
    refine List.perm_singleton.mp ((List.perm_ext_iff_of_nodup
      ((lanes.nodup_started books t.key).filter _) (List.nodup_singleton t)).mpr fun u ↦ ?_)
    rw [List.mem_filter, List.mem_singleton, onLane, List.mem_filter]
    constructor
    · rintro ⟨⟨u_mem, -⟩, number_eq⟩
      exact lanes.eq_of_started books t_mem u_mem (of_decide_eq_true number_eq)
    · rintro rfl
      exact ⟨⟨t_mem, decide_eq_true rfl⟩, decide_eq_true rfl⟩
  have attempts_eq : ((writesOnLane route (route t.key) h.attempts).filter
      fun write ↦ write.1.number = t.number) =
        h.attempts.filter fun write ↦ write.1.number = t.number := by
    refine filter_filter_of_imp fun write write_mem number_eq ↦ ?_
    rw [lanes.eq_of_started books t_mem (lanes.mem_started_of_attempt write_mem)
      (of_decide_eq_true number_eq)]
    exact decide_eq_true rfl
  have written_eq := congrArg (List.filter fun write ↦ write.1.number = t.number) lane.attempts
  rw [filter_flatMap_produced process? (fun u ↦ u.number = t.number), started_eq,
    List.filter_append, attempts_eq, List.flatMap_singleton] at written_eq
  rw [writesFor, ← List.map_append, ← written_eq, Worker.produced, List.map_map]
  exact List.map_id _

/-- Once a submission has been processed, all its records have been written, each once and in
order. -/
theorem writesFor_of_processed (t_mem : t ∈ h.processed) :
    h.writesFor t.number = Worker.records process? t := by
  have t_started := lanes.mem_started_of_processed t_mem
  obtain ⟨worker, worker_eq⟩ := lanes.exists_worker t.key
  have lane := lanes.lane _ worker worker_eq
  have started_nodup := lanes.nodup_started books t.key
  -- The task that the worker is at is not the processed submission, since none is started twice.
  have remaining_eq : (worker.remaining.filter fun write ↦ write.1.number = t.number) = [] := by
    refine List.filter_eq_nil_iff.mpr fun write write_mem number_eq ↦ ?_
    have active_mem := Worker.fst_mem_active write_mem
    have on_lane : write.1 ∈ onLane route (route t.key) h.started := by
      rw [lane.started]
      exact List.mem_append_right _ active_mem
    have write_eq := lanes.eq_of_started books t_started (List.mem_filter.mp on_lane).1
      (of_decide_eq_true number_eq)
    rw [lane.started] at started_nodup
    exact (List.nodup_append.mp started_nodup).2.2 t
      (List.mem_filter.mpr ⟨t_mem, decide_eq_true rfl⟩) write.1 active_mem write_eq.symm
  have written_eq := lanes.writesFor_append_remaining books t_started worker_eq
  rw [remaining_eq, List.map_nil, List.append_nil] at written_eq
  exact written_eq

/-- At all times the records that were written for a submission are the first ones of its
records. -/
theorem prefix_writesFor (t_mem : t ∈ h.made) :
    h.writesFor t.number <+: Worker.records process? t := by
  by_cases started : t ∈ h.started
  · obtain ⟨worker, worker_eq⟩ := lanes.exists_worker t.key
    exact ⟨_, lanes.writesFor_append_remaining books started worker_eq⟩
  · have none_written : (h.attempts.filter fun write ↦ write.1.number = t.number) = [] := by
      refine List.filter_eq_nil_iff.mpr fun write write_mem number_eq ↦ started ?_
      have write_started := lanes.mem_started_of_attempt write_mem
      have write_eq := books.eq_of_number (lanes.mem_made_of_started books write_started) t_mem
        (of_decide_eq_true number_eq)
      exact write_eq ▸ write_started
    rw [writesFor, none_written]
    exact List.nil_prefix

end Books

end Lanes

/-! ## Room in the queues -/

/-- The queues keep their capacities. -/
theorem Change.map_capacity_eq {h after : History} {action : Action}
    (change : h.Change action after) :
    after.dispatcher.workers.map (·.queue.capacity) =
      h.dispatcher.workers.map (·.queue.capacity) := by
  cases change with
  | push _ worker_eq | join _ worker_eq => exact Dispatcher.map_capacity_setQueue worker_eq rfl
  | mark worker_eq =>
    refine Dispatcher.map_capacity_setQueue worker_eq ?_
    split <;> rfl
  | @work number worker worker_eq =>
    have move := worker.move_step h.dispatcher.process? number h.dispatcher.sink
    obtain ⟨number_lt, get_eq⟩ := List.getElem?_eq_some_iff.mp worker_eq
    have map_lt : number < (h.dispatcher.workers.map (·.queue.capacity)).length := by
      rw [List.length_map]
      exact number_lt
    have capacity_eq : (h.dispatcher.workers.map (·.queue.capacity))[number] =
        worker.queue.capacity := by
      rw [List.getElem_map, get_eq]
    rw [workers_work worker_eq, List.map_set, move.capacity_eq, ← capacity_eq,
      List.set_getElem_self]
  | drop | refuse | strayMark | strayWork | write => rfl

theorem map_capacity_run (process? : Submission → Option Processing) (hash : QueueKey → Nat)
    (workers capacity : Nat) (sink : Sink) (actions : List Action) :
    ((start process? hash workers capacity sink).run actions).dispatcher.workers.map
        (·.queue.capacity) = List.replicate (max workers 1) (max capacity 1) :=
  run_induction_of_change List.map_replicate
    (fun change capacities ↦ change.map_capacity_eq.trans capacities) actions

/-- A submission that is made enters its queue if there is room, and is dropped, refused or waits if
there is none. -/
theorem Change.mem_inSituation {h after : History} {t : Ticket}
    (number_eq : t.number = h.made.length)
    (change : h.Change (.submit t.thread t.manner t.submission) after) :
    ∃ worker, h.dispatcher.workers[h.dispatcher.choose t.key]? = some worker ∧
      t ∈ after.inSituation
        (if worker.queue.items.length < worker.queue.capacity then
          .queued (h.dispatcher.choose t.key)
        else t.manner.withoutRoom (h.dispatcher.choose t.key)) := by
  have last_mem {α : Type} (a : α) (before : List α) : a ∈ before ++ [a] :=
    List.mem_append_right _ List.mem_cons_self
  have job_mem (before : List (Job Ticket)) : t ∈ Job.submissions (before ++ [.submission t]) :=
    List.mem_filterMap.mpr ⟨.submission t, last_mem _ before, rfl⟩
  have same {u : Ticket} (u_number : u.number = h.made.length)
      (action_eq : Action.submit t.thread t.manner t.submission =
        .submit u.thread u.manner u.submission) : u = t := by
    obtain ⟨number, thread, manner, submission⟩ := t
    obtain ⟨u_number, u_thread, u_manner, u_submission⟩ := u
    cases action_eq
    exact congrArg (Ticket.mk · thread manner submission) (u_number.trans number_eq.symm)
  generalize action_eq : Action.submit t.thread t.manner t.submission = action at change
  cases change with
  | push u_number worker_eq room =>
    obtain rfl := same u_number action_eq
    refine ⟨_, worker_eq, ?_⟩
    rw [if_pos room, inSituation, Dispatcher.workers_setQueue_self worker_eq]
    exact job_mem _
  | join u_number worker_eq no_room manner_eq =>
    obtain rfl := same u_number action_eq
    refine ⟨_, worker_eq, ?_⟩
    rw [if_neg no_room, manner_eq, Manner.withoutRoom, inSituation,
      Dispatcher.workers_setQueue_self worker_eq]
    exact job_mem _
  | drop u_number worker_eq no_room manner_eq =>
    obtain rfl := same u_number action_eq
    refine ⟨_, worker_eq, ?_⟩
    rw [if_neg no_room, manner_eq]
    exact last_mem _ h.dropped
  | refuse u_number worker_eq no_room manner_eq =>
    obtain rfl := same u_number action_eq
    refine ⟨_, worker_eq, ?_⟩
    rw [if_neg no_room, manner_eq]
    exact List.mem_map.mpr ⟨_, last_mem _ h.refused, rfl⟩
  | mark | strayMark | work | strayWork | write => cases action_eq

/-! ## The account -/

/-- The account of a dispatcher's submissions, where every queue has some capacity. -/
structure Accounted (process? : Ticket → Option Processing) (capacity : Nat) (h : History) :
    Prop where
  placed : h.Placed
  dropped : h.dispatcher.dropped = h.dropped.length ∧ ∀ t ∈ h.dropped, t.manner = .drops
  refused : ∀ entry ∈ h.refused, entry.1.manner = .tries ∧ entry.2 = .full
  waiting : ∀ worker, ∀ t ∈ h.inSituation (.waiting worker), t.manner = .waits
  queues : ∀ worker ∈ h.dispatcher.workers,
    worker.queue.capacity = capacity ∧ worker.queue.items.length ≤ capacity
  /-- Only the records of tasks that break off are lost. -/
  written : ∀ t ∈ h.processed, h.writesFor t.number = Worker.records process? t
  /-- What becomes of the next submission. -/
  submit : ∀ thread manner submission,
    let t : Ticket := ⟨h.made.length, thread, manner, submission⟩
    let number := h.dispatcher.choose t.key
    ∃ worker, h.dispatcher.workers[number]? = some worker ∧
      t ∈ (h.act (.submit thread manner submission)).inSituation
        (if worker.queue.items.length < capacity then .queued number
        else manner.withoutRoom number)

/-- All submissions that had arrived have been processed once. -/
structure Drained (h after : History) : Prop where
  processed : after.processed.Perm h.arrived
  nodup : after.processed.Nodup
  accepted : ∀ t ∈ h.accepted, t ∈ after.processed

namespace Lanes

variable {process? : Ticket → Option Processing} {route : QueueKey → Nat} {h : History}
  (lanes : h.Lanes process? route) (books : h.Books)

include lanes books

theorem accounted {capacity : Nat}
    (capacities : ∀ worker ∈ h.dispatcher.workers, worker.queue.capacity = capacity) :
    h.Accounted process? capacity where
  placed := lanes.placed books
  dropped := ⟨books.count, books.dropped⟩
  refused := books.refused
  waiting number t t_mem := by
    cases worker_eq : h.dispatcher.workers[number]? with
    | none =>
      rw [inSituation, worker_eq] at t_mem
      exact absurd t_mem List.not_mem_nil
    | some worker =>
      rw [inSituation, worker_eq] at t_mem
      exact (lanes.lane number worker worker_eq).waits t t_mem
  queues worker worker_mem := by
    obtain ⟨number, worker_eq⟩ := List.mem_iff_getElem?.mp worker_mem
    have length_le := (lanes.lane number worker worker_eq).sound.length_le
    rw [capacities worker worker_mem] at length_le
    exact ⟨capacities worker worker_mem, length_le⟩
  written t t_mem := lanes.writesFor_of_processed books t_mem
  submit thread manner submission := by
    have change := lanes.change (.submit thread manner submission)
    obtain ⟨worker, worker_eq, t_mem⟩ :=
      change.mem_inSituation (t := ⟨h.made.length, thread, manner, submission⟩) rfl
    rw [capacities worker (List.mem_of_getElem? worker_eq)] at t_mem
    exact ⟨worker, worker_eq, t_mem⟩

/-- Once the steps of workers have left all of them idle, everything that had arrived is
processed. -/
theorem drained {works : List Action} (all_work : ∀ action ∈ works, action.IsWork)
    (idle : ∀ number, (h.run works).IsIdle number) : h.Drained (h.run works) := by
  have processed := (lanes.run works).processed_perm_arrived idle
  rw [(run_of_isWork all_work h).2.1] at processed
  have arrived_nodup := (List.nodup_append.mp (books.made.nodup books.made_nodup)).1
  exact ⟨processed, processed.nodup_iff.mpr arrived_nodup, fun t t_mem ↦
    processed.mem_iff.mpr (lanes.mem_arrived_of_accepted t_mem)⟩

omit books in
/-- The shutdown of a dispatcher lets the workers step until they are idle. -/
theorem exists_shutdown : ∃ works, (∀ action ∈ works, Action.IsWork action) ∧
    (∀ number, (h.run works).IsIdle number) ∧
      (h.run works).dispatcher.abandon = h.dispatcher.shutdown.1 := by
  obtain ⟨works, all_work, dispatcher_eq, idle⟩ :=
    lanes.exists_drain (List.range h.dispatcher.workers.length)
  refine ⟨works, all_work, fun number ↦ idle number ?_, ?_⟩
  · by_cases lt : number < h.dispatcher.workers.length
    · exact .inl (List.mem_range.mpr lt)
    · refine .inr fun worker worker_eq ↦ ?_
      rw [List.getElem?_eq_none (Nat.not_lt.mp lt)] at worker_eq
      cases worker_eq
  · rw [dispatcher_eq, ← Dispatcher.fst_forWorkers]
    rfl

end Lanes

end History

/-- **Every submission is accounted for.**  After any actions of any threads and workers, of any
number of workers with queues of any capacity, each submission is in exactly one situation.
Whatever steps of the workers follow, as soon as all workers are idle everything that had arrived
has been processed once; and the shutdown of the dispatcher makes such steps.  Without its tickets
the history is the run of the dispatcher. -/
theorem submissions_accounted (process? : Submission → Option Processing) (hash : QueueKey → Nat)
    (workers capacity : Nat) (sink : Sink) (actions : List Action) :
    let h := (History.start process? hash workers capacity sink).run actions
    h.plain process? =
        actions.foldl Action.apply (Dispatcher.start process? hash workers capacity sink) ∧
      h.Accounted (fun t ↦ process? t.submission) (max capacity 1) ∧
      (∀ works, (∀ action ∈ works, action.IsWork) → (∀ number, (h.run works).IsIdle number) →
        h.Drained (h.run works)) ∧
      ∃ works, (∀ action ∈ works, action.IsWork) ∧ (∀ number, (h.run works).IsIdle number) ∧
        (h.run works).dispatcher.abandon = h.dispatcher.shutdown.1 := by
  intro h
  have lanes := History.lanes_run process? hash workers capacity sink actions
  have books := History.books_run process? hash workers capacity sink actions
  have capacities : ∀ worker ∈ h.dispatcher.workers, worker.queue.capacity = max capacity 1 := by
    intro worker worker_mem
    have capacity_mem : worker.queue.capacity ∈ h.dispatcher.workers.map (·.queue.capacity) :=
      List.mem_map_of_mem worker_mem
    rw [History.map_capacity_run] at capacity_mem
    exact List.eq_of_mem_replicate capacity_mem
  refine ⟨?_, ?_, ?_, ?_⟩
  · exact History.plain_run process? hash workers capacity sink actions
  · exact lanes.accounted books capacities
  · exact fun works all_work idle ↦ lanes.drained books all_work idle
  · exact lanes.exists_shutdown

end Dispatch

end AuditTrail

import AuditTrail.Capture.Worker

/-!
# The stages of a submission

On its way through a worker a submission waits for room in the queue, stands in the queue, is worked
on, and is done.  A step of a worker moves some submissions on by one stage and writes a record of
the one that is worked on.  Everything that a step does is therefore said by four lists: who is
admitted to the queue, who is started, who is finished and what is written.

At each stage the balance is one equation between lists, what was there followed by what comes in
being what goes out followed by what stays.  These equations know the order, so that they give both
that nothing is lost and that nothing overtakes.
-/

namespace AuditTrail

variable {α : Type}

/-! ## Queues in use -/

namespace BoundedQueue

/-- The queue with one more item. -/
def push (a : α) (queue : BoundedQueue α) : BoundedQueue α :=
  { queue with items := queue.items ++ [a] }

/-- The queue with one more item that waits for room. -/
def join (a : α) (queue : BoundedQueue α) : BoundedQueue α :=
  { queue with waiting := queue.waiting ++ [a] }

/-- The queue after its oldest item has been taken, of which `items` are left. -/
def taken (items : List α) (queue : BoundedQueue α) : BoundedQueue α :=
  { queue with
    items := items ++ queue.waiting.take 1
    waiting := queue.waiting.drop 1 }

theorem take?_of_cons {queue : BoundedQueue α} {a : α} {items : List α}
    (items_eq : queue.items = a :: items) : queue.take? = some (a, queue.taken items) := by
  rw [take?, items_eq]
  rfl

theorem take?_of_nil {queue : BoundedQueue α} (items_eq : queue.items = []) :
    queue.take? = none := by
  rw [take?, items_eq]

/-- A queue in use is open, has room for an item when it is empty, holds no more than its capacity,
and is full as long as anybody waits. -/
structure IsSound (queue : BoundedQueue α) : Prop where
  isOpen : queue.isOpen = true
  capacity_pos : 0 < queue.capacity
  length_le : queue.items.length ≤ queue.capacity
  full : queue.waiting ≠ [] → queue.items.length = queue.capacity

theorem isSound_empty {capacity : Nat} (capacity_pos : 0 < capacity) :
    (empty capacity : BoundedQueue α).IsSound where
  isOpen := rfl
  capacity_pos := capacity_pos
  length_le := Nat.zero_le _
  full waiting_ne := absurd rfl waiting_ne

namespace IsSound

variable {queue : BoundedQueue α} (sound : queue.IsSound)

include sound

/-- Nobody waits as long as an item fits. -/
theorem waiting_eq_nil (room : queue.items.length < queue.capacity) : queue.waiting = [] := by
  cases waiting_eq : queue.waiting with
  | nil => rfl
  | cons a rest =>
    have full := sound.full (waiting_eq ▸ List.cons_ne_nil a rest)
    exact absurd full (Nat.ne_of_lt room)

/-- An empty queue has nobody waiting. -/
theorem waiting_of_items (items_eq : queue.items = []) : queue.waiting = [] := by
  refine sound.waiting_eq_nil ?_
  rw [items_eq]
  exact sound.capacity_pos

theorem hasRoom_eq : queue.hasRoom = decide (queue.items.length < queue.capacity) := by
  by_cases room : queue.items.length < queue.capacity
  · rw [hasRoom, sound.waiting_eq_nil room, decide_eq_true room]
    rfl
  · rw [hasRoom, decide_eq_false room]
    rfl

/-- A queue in use takes an item if and only if it fits. -/
theorem offer_eq (a : α) :
    queue.offer a =
      if queue.items.length < queue.capacity then .ok (queue.push a) else .error .full := by
  have not_closed : (!queue.isOpen) = false := by
    rw [sound.isOpen]
    rfl
  rw [offer, not_closed, sound.hasRoom_eq]
  by_cases room : queue.items.length < queue.capacity
  · rw [decide_eq_true room, if_pos room]
    rfl
  · rw [decide_eq_false room, if_neg room]
    rfl

/-- Who may wait is always taken in. -/
theorem enter_eq (a : α) :
    queue.enter a =
      .ok (if queue.items.length < queue.capacity then queue.push a else queue.join a) := by
  rw [enter, sound.offer_eq]
  by_cases room : queue.items.length < queue.capacity
  · rw [if_pos room, if_pos room]
  · rw [if_neg room, if_neg room]
    rfl

theorem push {a : α} (room : queue.items.length < queue.capacity) : (queue.push a).IsSound where
  isOpen := sound.isOpen
  capacity_pos := sound.capacity_pos
  length_le := by
    rw [BoundedQueue.push, List.length_append]
    exact room
  full waiting_ne := absurd (sound.waiting_eq_nil room) waiting_ne

theorem join {a : α} (no_room : ¬ queue.items.length < queue.capacity) :
    (queue.join a).IsSound where
  isOpen := sound.isOpen
  capacity_pos := sound.capacity_pos
  length_le := sound.length_le
  full _ := Nat.le_antisymm sound.length_le (Nat.not_lt.mp no_room)

/-- Taking an item lets one in who waits, so that the queue stays full while anybody else waits. -/
theorem taken {a : α} {items : List α} (items_eq : queue.items = a :: items) :
    (queue.taken items).IsSound where
  isOpen := sound.isOpen
  capacity_pos := sound.capacity_pos
  length_le := by
    have length_le := sound.length_le
    rw [items_eq, List.length_cons] at length_le
    simp only [BoundedQueue.taken, List.length_append, List.length_take]
    omega
  full waiting_ne := by
    have drop_pos : 0 < (queue.waiting.drop 1).length := List.length_pos_iff.mpr waiting_ne
    have full := sound.full fun waiting_eq ↦ waiting_ne (by
      rw [BoundedQueue.taken, waiting_eq, List.drop_nil])
    rw [List.length_drop] at drop_pos
    rw [items_eq, List.length_cons] at full
    simp only [BoundedQueue.taken, List.length_append, List.length_take]
    omega

end IsSound

end BoundedQueue

/-! ## Workers -/

/-- The submission of a job; a mark has none. -/
def Job.submission? : Job α → Option α
  | submission a => some a
  | mark _ => none

/-- The submissions of some jobs, in order. -/
def Job.submissions (jobs : List (Job α)) : List α :=
  jobs.filterMap submission?

theorem Job.submissions_append (jobs more : List (Job α)) :
    submissions (jobs ++ more) = submissions jobs ++ submissions more :=
  List.filterMap_append

theorem Job.submissions_cons (job : Job α) (rest : List (Job α)) :
    submissions (job :: rest) = job.submission?.toList ++ submissions rest := by
  cases job <;> rfl

/-- What a step of a worker does to submissions. -/
structure Effect (α : Type) where
  /-- Who waited and enters the queue. -/
  admitted : List α := []
  started : List α := []
  finished : List α := []
  /-- The records that are offered to the sink, each with its submission. -/
  written : List (α × AuditRecord) := []

namespace Worker

/-- The records of a submission, of which there are none if its task breaks off. -/
def records (process? : α → Option Processing) (a : α) : List AuditRecord :=
  (process? a).elim [] (·.records)

/-- The records of a submission, each with the submission. -/
def produced (process? : α → Option Processing) (a : α) : List (α × AuditRecord) :=
  (records process? a).map fun record ↦ (a, record)

/-- The records that a submission produces are its own. -/
theorem fst_of_mem_produced {process? : α → Option Processing} {a : α} {write : α × AuditRecord}
    (write_mem : write ∈ produced process? a) : write.1 = a := by
  obtain ⟨record, -, rfl⟩ := List.mem_map.mp write_mem
  rfl

/-- The submissions that wait for room in the queue. -/
def awaiting (worker : Worker α) : List α :=
  Job.submissions worker.queue.waiting

/-- The submissions in the queue. -/
def queued (worker : Worker α) : List α :=
  Job.submissions worker.queue.items

/-- The submission on which the worker is at work. -/
def active (worker : Worker α) : List α :=
  worker.task.toList.map (·.submission)

/-- The records that are still to be written for it. -/
def remaining (worker : Worker α) : List (α × AuditRecord) :=
  worker.task.toList.flatMap fun task ↦ task.records.map fun record ↦ (task.submission, record)

/-- What is still to be written belongs to the submission that is worked on. -/
theorem fst_mem_active {worker : Worker α} {write : α × AuditRecord}
    (write_mem : write ∈ worker.remaining) : write.1 ∈ worker.active := by
  obtain ⟨task, task_mem, write_of_task⟩ := List.mem_flatMap.mp write_mem
  obtain ⟨record, -, rfl⟩ := List.mem_map.mp write_of_task
  exact List.mem_map.mpr ⟨task, task_mem, rfl⟩

variable (process? : α → Option Processing)

/-- What the next step of a worker does. -/
def effect (worker : Worker α) : Effect α :=
  match worker.task with
  | some ⟨a, record :: _⟩ => { written := [(a, record)] }
  | some ⟨a, []⟩ => { finished := [a] }
  | none =>
    match worker.queue.items with
    | [] => {}
    | job :: _ =>
      { admitted := Job.submissions (worker.queue.waiting.take 1)
        started := job.submission?.toList
        finished := job.submission?.toList.filter fun a ↦ (process? a).isNone }

/-- What a worker can do next: write a record, lay a finished submission aside, rest, acknowledge a
mark, or take a submission, whose task may break off at once. -/
inductive Move (worker : Worker α) (sink : Sink) : Effect α → Worker α → Sink → Prop
  | write {a : α} {record : AuditRecord} {records : List AuditRecord}
      (task_eq : worker.task = some ⟨a, record :: records⟩) :
      Move worker sink { written := [(a, record)] } { worker with task := some ⟨a, records⟩ }
        (sink.write record).2
  | finish {a : α} (task_eq : worker.task = some ⟨a, []⟩) :
      Move worker sink { finished := [a] } { worker with task := none } sink
  | rest (task_eq : worker.task = none) (items_eq : worker.queue.items = []) :
      Move worker sink {} worker sink
  | acknowledge {id : Nat} {items : List (Job α)} (task_eq : worker.task = none)
      (items_eq : worker.queue.items = .mark id :: items) :
      Move worker sink { admitted := Job.submissions (worker.queue.waiting.take 1) }
        { queue := worker.queue.taken items
          task := none
          acknowledged := id :: worker.acknowledged }
        sink
  | start {a : α} {items : List (Job α)} {processing : Processing} (task_eq : worker.task = none)
      (items_eq : worker.queue.items = .submission a :: items)
      (process_eq : process? a = some processing) :
      Move worker sink
        { admitted := Job.submissions (worker.queue.waiting.take 1), started := [a] }
        { worker with
          queue := worker.queue.taken items
          task := some ⟨a, processing.records⟩ }
        sink
  | breakOff {a : α} {items : List (Job α)} (task_eq : worker.task = none)
      (items_eq : worker.queue.items = .submission a :: items) (process_eq : process? a = none) :
      Move worker sink
        { admitted := Job.submissions (worker.queue.waiting.take 1)
          started := [a]
          finished := [a] }
        { worker with
          queue := worker.queue.taken items
          task := none }
        sink

/-- A step is one of these moves. -/
theorem move_step (number : Nat) (worker : Worker α) (sink : Sink) :
    Move process? worker sink (worker.effect process?) (worker.step process? number sink).1
      (worker.step process? number sink).2.1 := by
  rcases task_eq : worker.task with _ | ⟨a, _ | ⟨record, records⟩⟩
  · rcases items_eq : worker.queue.items with _ | ⟨_ | id, items⟩
    case nil =>
      rw [effect, step, task_eq, items_eq, BoundedQueue.take?_of_nil items_eq]
      exact .rest task_eq items_eq
    case cons.mark =>
      rw [effect, step, task_eq, items_eq, BoundedQueue.take?_of_cons items_eq]
      exact .acknowledge task_eq items_eq
    case cons.submission a =>
      rw [effect, step, task_eq, items_eq, BoundedQueue.take?_of_cons items_eq]
      cases process_eq : process? a with
      | some processing =>
        simp only [start, process_eq, Job.submission?, Option.toList, Option.isNone_some,
          List.filter_cons, List.filter_nil, Bool.false_eq_true, if_false]
        exact .start task_eq items_eq process_eq
      | none =>
        simp only [start, process_eq, Job.submission?, Option.toList, Option.isNone_none,
          List.filter_cons, List.filter_nil, if_true]
        exact .breakOff task_eq items_eq process_eq
  · rw [effect, step, task_eq]
    exact .finish task_eq
  · rw [effect, step, task_eq]
    exact .write task_eq

end Worker

/-- The balance of every stage: what was there and what comes in is what goes out and what stays. -/
structure Effect.Carries (effect : Effect α) (produced : α → List (α × AuditRecord))
    (before after : Worker α) : Prop where
  awaiting : before.awaiting = effect.admitted ++ after.awaiting
  queued : before.queued ++ effect.admitted = effect.started ++ after.queued
  active : before.active ++ effect.started = effect.finished ++ after.active
  remaining :
    before.remaining ++ effect.started.flatMap produced = effect.written ++ after.remaining

namespace Worker.Move

variable {process? : α → Option Processing} {worker after : Worker α} {sink sink' : Sink}
  {effect : Effect α} (move : Move process? worker sink effect after sink')

include move

/-- The queue stays sound. -/
theorem isSound (sound : worker.queue.IsSound) : after.queue.IsSound := by
  cases move with
  | write | finish | rest => exact sound
  | acknowledge task_eq items_eq | start task_eq items_eq | breakOff task_eq items_eq =>
    exact sound.taken items_eq

/-- The queue keeps its capacity. -/
theorem capacity_eq : after.queue.capacity = worker.queue.capacity := by
  cases move <;> rfl

/-- Every stage is balanced. -/
theorem carries : effect.Carries (produced process?) worker after := by
  have awaiting_eq : Job.submissions worker.queue.waiting =
      Job.submissions (worker.queue.waiting.take 1) ++
        Job.submissions (worker.queue.waiting.drop 1) := by
    rw [← Job.submissions_append, List.take_append_drop]
  have queued_eq {job : Job α} {items : List (Job α)}
      (items_eq : worker.queue.items = job :: items) :
      worker.queued ++ Job.submissions (worker.queue.waiting.take 1) =
        job.submission?.toList ++ Job.submissions (items ++ worker.queue.waiting.take 1) := by
    rw [queued, items_eq, Job.submissions_cons, Job.submissions_append, List.append_assoc]
  cases move with
  | write task_eq =>
    refine ⟨rfl, List.append_nil _, ?_, ?_⟩
    · rw [active, active, task_eq]
      rfl
    · rw [remaining, task_eq]
      exact List.append_nil _
  | finish task_eq =>
    refine ⟨rfl, List.append_nil _, ?_, ?_⟩
    · rw [active, task_eq]
      rfl
    · rw [remaining, task_eq]
      rfl
  | rest => exact ⟨rfl, List.append_nil _, List.append_nil _, List.append_nil _⟩
  | acknowledge task_eq items_eq =>
    refine ⟨awaiting_eq, queued_eq items_eq, ?_, ?_⟩
    · rw [active, task_eq]
      rfl
    · rw [remaining, task_eq]
      rfl
  | start task_eq items_eq process_eq =>
    refine ⟨awaiting_eq, queued_eq items_eq, ?_, ?_⟩
    · rw [active, task_eq]
      rfl
    · rw [remaining, task_eq, List.flatMap_singleton, produced, records, process_eq]
      exact (List.append_nil _).symm
  | breakOff task_eq items_eq process_eq =>
    refine ⟨awaiting_eq, queued_eq items_eq, ?_, ?_⟩
    · rw [active, task_eq]
      rfl
    · rw [remaining, task_eq, List.flatMap_singleton, produced, records, process_eq]
      rfl

/-- The written records are offered to the sink. -/
theorem offered_eq : sink'.offered = sink.offered ++ effect.written.map (·.2) := by
  cases move with
  | write => rfl
  | finish | rest | acknowledge | start | breakOff => exact (List.append_nil _).symm

end Worker.Move

end AuditTrail

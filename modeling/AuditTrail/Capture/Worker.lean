import AuditTrail.Capture.BoundedQueue
import AuditTrail.Capture.Sink
import AuditTrail.Capture.Submission

/-!
# Workers

A worker owns a queue and takes one job after the other from it. It works in small steps, each of
which takes a job, offers one record to the sink or lays a finished submission aside, so that the
steps of several workers and callers can be interleaved in any way. A refused record and a task that
breaks off are reported and lose nothing else.

The submissions may be of any type; `process?` says what is done for one of them.
-/

namespace AuditTrail

/-- What stands in the queue of a worker. -/
inductive Job (α : Type) where
  | submission (a : α)
  /-- Is acknowledged once everything before it is done. -/
  | mark (id : Nat)

/-- A submission on which a worker is at work, and the records that it has still to write. -/
structure Task (α : Type) where
  submission : α
  records : List AuditRecord

/-- A worker and its queue. -/
structure Worker (α : Type) where
  queue : BoundedQueue (Job α)
  task : Option (Task α)
  /-- The marks that the worker has passed, the last one first. -/
  acknowledged : List Nat

namespace Worker

variable {α : Type}

/-- The idle worker with an empty queue. -/
def idle (capacity : Nat) : Worker α :=
  ⟨.empty capacity, none, []⟩

/-- The diagnostic of a record that the sink refuses. -/
def refusalLog (record : AuditRecord) (error : SinkError) : Log.Event where
  level := .error
  target := Log.diagnosticTarget
  message := "Failed to write audit record"
  fields := [("event", .shown record.event.category.name), ("channel", .shown record.channel.name),
    ("error", .shown error.message)]

/-- The diagnostic of a task that breaks off, at the worker with that number. -/
def breakLog (number : Nat) : Log.Event where
  level := .error
  target := Log.diagnosticTarget
  message := "Audit record task failed"
  fields := [("shard", .number number)]

/-- The worker after taking a job, with the diagnostics of the job. -/
def start (process? : α → Option Processing) (number : Nat) (job : Job α) (worker : Worker α) :
    Worker α × List Log.Event :=
  match job with
  | .mark id => ({ worker with acknowledged := id :: worker.acknowledged }, [])
  | .submission a =>
    match process? a with
    | some processing => ({ worker with task := some ⟨a, processing.records⟩ }, processing.logs)
    | none => (worker, [breakLog number])

/-- One step of a worker, which does nothing if there is nothing to do. -/
def step (process? : α → Option Processing) (number : Nat) (worker : Worker α) (sink : Sink) :
    Worker α × Sink × List Log.Event :=
  match worker.task with
  | some ⟨a, record :: records⟩ =>
    let (error, sink) := sink.write record
    ({ worker with task := some ⟨a, records⟩ }, sink, error.toList.map (refusalLog record))
  | some ⟨_, []⟩ => ({ worker with task := none }, sink, [])
  | none =>
    match worker.queue.take? with
    | some (job, queue) =>
      let (worker, logs) := start process? number job { worker with queue }
      (worker, sink, logs)
    | none => (worker, sink, [])

/-- The number of steps that a task takes to its end. -/
def taskSteps : Option (Task α) → Nat
  | some task => task.records.length + 1
  | none => 0

/-- The number of steps that a job takes. -/
def jobSteps (process? : α → Option Processing) : Job α → Nat
  | .mark _ => 1
  | .submission a =>
    match process? a with
    | some processing => processing.records.length + 2
    | none => 1

/-- The number of steps until a worker has done everything that its queue holds or that waits for
room in it. -/
def stepsToIdle (process? : α → Option Processing) (worker : Worker α) : Nat :=
  taskSteps worker.task + worker.queue.pending.foldr (fun job n ↦ jobSteps process? job + n) 0

/-- The number of steps until a worker has done the next job. -/
def stepsToNext (process? : α → Option Processing) (worker : Worker α) : Nat :=
  taskSteps worker.task + (worker.queue.pending.head?.map (jobSteps process?)).getD 0

end Worker

end AuditTrail

import AuditTrail.Capture.Worker
import AuditTrail.Decimal.Binary64

/-!
# The dispatcher

Submissions go to the queues of some workers. A hash of the correlation identifier chooses the
queue, or a hash of the submitting thread where there is none, so that what belongs together stays
in order. Callers that do not wait lose what does not fit; of these losses the dispatcher keeps the
number.

The callers' operations and the workers' steps are functions on the state, so that every
interleaving of them is a sequence of such functions. The waiting operations at the end are
schedules: a single caller waits while the workers work.
-/

namespace AuditTrail

/-- What chooses the queue of a submission. -/
inductive QueueKey where
  | correlation (id : String)
  | thread (id : Nat)
  deriving DecidableEq, Repr

/-- The key of an event that a thread submits. -/
def AuditEvent.queueKey (event : AuditEvent) (thread : Nat) : QueueKey :=
  match event.correlationId with
  | some id => .correlation id
  | none => .thread thread

/-- What becomes of a sum of machine words that no word holds: it breaks off, with everything that
needs it, where sums are checked, and goes on with what is left of the size of a word elsewhere. -/
inductive Overflow where
  | breaksOff
  | wraps
  deriving DecidableEq, Repr

namespace Overflow

/-- A total with one more number. -/
def add (overflow : Overflow) (total : UInt64) (n : Nat) : Option UInt64 :=
  match overflow with
  | breaksOff => if total.toNat + n < UInt64.size then some (total + .ofNat n) else none
  | wraps => some (total + .ofNat n)

/-- The total of some numbers, unless the sum breaks off. -/
def sum (overflow : Overflow) (ns : List Nat) : Option UInt64 :=
  ns.foldlM overflow.add 0

end Overflow

/-- The state of a dispatcher. -/
structure Dispatcher (α : Type) where
  /-- What is done for a submission. -/
  process? : α → Option Processing
  /-- The hash that chooses queues. -/
  hash : QueueKey → Nat
  workers : List (Worker α)
  /-- The number of submissions that were lost because their queue was full. -/
  dropped : Nat
  sink : Sink

namespace Dispatcher

variable {α : Type}

/-- A dispatcher with at least one worker and room for at least one item in every queue. -/
def start (process? : α → Option Processing) (hash : QueueKey → Nat) (workers capacity : Nat)
    (sink : Sink) : Dispatcher α where
  process?
  hash
  workers := List.replicate (max workers 1) (.idle (max capacity 1))
  dropped := 0
  sink

/-- The number of the worker that a key chooses. -/
def choose (key : QueueKey) (dispatcher : Dispatcher α) : Nat :=
  dispatcher.hash key % dispatcher.workers.length

/-! ## Callers -/

/-- Replaces the queue of a worker. -/
def setQueue (number : Nat) (queue : BoundedQueue (Job α)) (dispatcher : Dispatcher α) :
    Dispatcher α :=
  { dispatcher with
    workers := dispatcher.workers.modify number fun worker ↦ { worker with queue } }

/-- What an operation on the queue of a worker makes of the dispatcher. -/
def withQueue (number : Nat)
    (operation : BoundedQueue (Job α) → Except DispatchError (BoundedQueue (Job α)))
    (dispatcher : Dispatcher α) : Except DispatchError (Dispatcher α) :=
  match dispatcher.workers[number]? with
  | some worker => (operation worker.queue).map fun queue ↦ dispatcher.setQueue number queue
  | none => .error .closed

/-- Submits without waiting; a refusal leaves everything as it is. -/
def offer (key : QueueKey) (a : α) (dispatcher : Dispatcher α) :
    Except DispatchError (Dispatcher α) :=
  dispatcher.withQueue (dispatcher.choose key) (·.offer (.submission a))

/-- The diagnostic of a dropped submission, of which there were `n` so far. -/
def dropLog (n : Nat) : Log.Event where
  level := .warn
  target := Log.diagnosticTarget
  message := "Audit queue full, record dropped"
  fields := [("dropped", .number n)]

/-- The diagnostic of a submission after the end. -/
def lateLog : Log.Event where
  level := .error
  target := Log.diagnosticTarget
  message := "Audit dispatcher is shut down, record dropped"
  fields := []

/-- Submits without waiting; what does not fit is dropped and counted. -/
def submit (key : QueueKey) (a : α) (dispatcher : Dispatcher α) :
    Dispatcher α × List Log.Event :=
  match dispatcher.offer key a with
  | .ok dispatcher => (dispatcher, [])
  | .error .full =>
    ({ dispatcher with dropped := dispatcher.dropped + 1 }, [dropLog (dispatcher.dropped + 1)])
  | .error .closed => (dispatcher, [lateLog])

/-- Submits and waits for room if the queue is full. -/
def enter (key : QueueKey) (a : α) (dispatcher : Dispatcher α) :
    Except DispatchError (Dispatcher α) :=
  dispatcher.withQueue (dispatcher.choose key) (·.enter (.submission a))

/-- Puts a mark into the queue of a worker, waiting for room if it is full. -/
def enterMark (id number : Nat) (dispatcher : Dispatcher α) : Except DispatchError (Dispatcher α) :=
  dispatcher.withQueue number (·.enter (.mark id))

/-- Offers a record to the sink past the workers. -/
def write (record : AuditRecord) (dispatcher : Dispatcher α) : Option SinkError × Dispatcher α :=
  let (error, sink) := dispatcher.sink.write record
  (error, { dispatcher with sink })

/-! ## Workers -/

/-- One step of the worker with a number. -/
def step (number : Nat) (dispatcher : Dispatcher α) : Dispatcher α × List Log.Event :=
  match dispatcher.workers[number]? with
  | some worker =>
    let (worker, sink, logs) := worker.step dispatcher.process? number dispatcher.sink
    ({ dispatcher with workers := dispatcher.workers.set number worker, sink }, logs)
  | none => (dispatcher, [])

/-- Some steps of the worker with a number. -/
def steps (number : Nat) : (n : Nat) → Dispatcher α → Dispatcher α × List Log.Event
  | 0, dispatcher => (dispatcher, [])
  | n + 1, dispatcher =>
    let (dispatcher, logs) := dispatcher.step number
    let (dispatcher, moreLogs) := steps number n dispatcher
    (dispatcher, logs ++ moreLogs)

/-- The worker with a number does everything that is in its queue or waits for room in it. -/
def drainWorker (number : Nat) (dispatcher : Dispatcher α) : Dispatcher α × List Log.Event :=
  match dispatcher.workers[number]? with
  | some worker => dispatcher.steps number (worker.stepsToIdle dispatcher.process?)
  | none => (dispatcher, [])

/-- The worker with a number does the next job. -/
def nextJob (number : Nat) (dispatcher : Dispatcher α) : Dispatcher α × List Log.Event :=
  match dispatcher.workers[number]? with
  | some worker => dispatcher.steps number (worker.stepsToNext dispatcher.process?)
  | none => (dispatcher, [])

/-- Every worker in turn does `activity`. -/
def forWorkers (activity : Nat → Dispatcher α → Dispatcher α × List Log.Event)
    (dispatcher : Dispatcher α) : Dispatcher α × List Log.Event :=
  (List.range dispatcher.workers.length).foldl
    (fun (dispatcher, logs) number ↦
      let (dispatcher, moreLogs) := activity number dispatcher
      (dispatcher, logs ++ moreLogs))
    (dispatcher, [])

/-- All workers do everything that there is to do. -/
def drain (dispatcher : Dispatcher α) : Dispatcher α × List Log.Event :=
  dispatcher.forWorkers drainWorker

/-- The workers are stopped: their queues are closed, and what is in them is lost. -/
def abandon (dispatcher : Dispatcher α) : Dispatcher α :=
  { dispatcher with
    workers := dispatcher.workers.map fun worker ↦
      { worker with queue := worker.queue.close, task := none } }

/-! ## What callers see -/

/-- All queues are open. -/
def isHealthy (dispatcher : Dispatcher α) : Bool :=
  dispatcher.workers.all fun worker ↦ worker.queue.isOpen

/-- How many items all queues together can hold. -/
def capacity (overflow : Overflow) (dispatcher : Dispatcher α) : Option UInt64 :=
  overflow.sum (dispatcher.workers.map fun worker ↦ worker.queue.capacity)

/-- How many more items fit into all queues together. -/
def free (overflow : Overflow) (dispatcher : Dispatcher α) : Option UInt64 :=
  overflow.sum (dispatcher.workers.map fun worker ↦ worker.queue.free)

/-- How full the queues are, from zero to one as long as a machine word holds all their room, unless
a sum breaks off. -/
def usage (overflow : Overflow) (dispatcher : Dispatcher α) : Option Binary64 := do
  let capacity ← dispatcher.capacity overflow
  let free ← dispatcher.free overflow
  return (Binary64.quotient (.ofInt free.toNat) (.ofInt capacity.toNat)).oneMinus

/-! ## Waiting -/

/-- The diagnostic of a submission that waited in vain. -/
def queueLog : Log.Event where
  level := .error
  target := Log.diagnosticTarget
  message := "Failed to queue audit record: channel closed"
  fields := []

/-- Submits and waits until there is room. -/
def submitWaiting (key : QueueKey) (a : α) (dispatcher : Dispatcher α) :
    Dispatcher α × List Log.Event × List Log.Event :=
  let isFull := dispatcher.offer key a matches .error .full
  match dispatcher.enter key a with
  | .error _ => (dispatcher, [queueLog], [])
  | .ok entered =>
    let (after, logs) :=
      if isFull then entered.nextJob (dispatcher.choose key) else (entered, [])
    (after, [], logs)

/-- Waits until everything that was submitted before is done. -/
def flush (id : Nat) (dispatcher : Dispatcher α) : Dispatcher α × List Log.Event :=
  (dispatcher.forWorkers fun number dispatcher ↦
    ((dispatcher.enterMark id number).toOption.getD dispatcher, [])).1.drain

/-- The diagnostic of a worker that was stopped before the end. -/
def stoppedLog : Log.Event where
  level := .error
  target := Log.diagnosticTarget
  message := "Audit worker failed"
  fields := []

/-- Takes nothing more and waits until everything is done; reports the workers that were stopped
before, and what the other ones report. -/
def shutdown (dispatcher : Dispatcher α) : Dispatcher α × List Log.Event × List Log.Event :=
  let stopped := dispatcher.workers.filter fun worker ↦ !worker.queue.isOpen
  let (dispatcher, logs) := dispatcher.drain
  (dispatcher.abandon, stopped.map fun _ ↦ stoppedLog, logs)

/-- Waits until the sink has stored some number of records, in rounds in which every worker does one
job, and answers whether it has. -/
def waitFor (n : Nat) : (rounds : Nat) → Dispatcher α → Bool × Dispatcher α × List Log.Event
  | 0, dispatcher => ((dispatcher.sink.memory.await? n).isSome, dispatcher, [])
  | rounds + 1, dispatcher =>
    if (dispatcher.sink.memory.await? n).isSome then (true, dispatcher, [])
    else
      let (dispatcher, logs) := dispatcher.forWorkers nextJob
      let (reached, dispatcher, moreLogs) := waitFor n rounds dispatcher
      (reached, dispatcher, logs ++ moreLogs)

/-- The number of rounds after which no worker has anything to do. -/
def rounds (dispatcher : Dispatcher α) : Nat :=
  dispatcher.workers.foldr (fun worker n ↦ worker.queue.pending.length + 1 + n) 0

end Dispatcher

end AuditTrail

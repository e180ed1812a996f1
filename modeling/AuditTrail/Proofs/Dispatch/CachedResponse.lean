import AuditTrail.Capture.Partner
import AuditTrail.Proofs.Dispatch.Erasure
import AuditTrail.Proofs.Dispatch.Records

/-!
# Responses from a cache

A response from a cache is audited in one of two ways and never in both.  Either it enters a queue,
and then its caller has written nothing; or no queue takes it, and then its caller writes one record
of this failure past the workers and is told about it.  Nothing is half done: a queue that refuses
an item stays as it is, and the record of a failure is offered to the sink once, whatever the sink
answers.

The call is made of two actions, the offer to the queue and the write to the sink, between which
other callers and the workers may do anything.  What is said of the second action is therefore said
of every state, and not only of the one in which the queue was full.
-/

namespace AuditTrail

/-! ## The offer -/

namespace BoundedQueue

variable {α : Type} {queue : BoundedQueue α}

theorem offer_of_isOpen (isOpen : queue.isOpen = true) (a : α) :
    queue.offer a = if queue.hasRoom then .ok (queue.push a) else .error .full := by
  have not_closed : (!queue.isOpen) = false := by
    rw [isOpen]
    rfl
  rw [offer, not_closed]
  rfl

theorem offer_of_closed (closed : queue.isOpen = false) (a : α) :
    queue.offer a = .error .closed := by
  have not_isOpen : (!queue.isOpen) = true := by
    rw [closed]
    rfl
  rw [offer, not_isOpen]
  rfl

end BoundedQueue

namespace Dispatcher

variable {α : Type}

/-- The queue of the worker with a number is open, and one more item fits. -/
def HasRoom (number : Nat) (d : Dispatcher α) : Prop :=
  ∃ worker, d.workers[number]? = some worker ∧ worker.queue.isOpen = true ∧
    worker.queue.hasRoom = true

/-- The queue of the worker with a number has got a job behind all others, and nothing else is
different. -/
def Gains (number : Nat) (job : Job α) (before after : Dispatcher α) : Prop :=
  ∃ (first : List (Worker α)) (worker : Worker α) (rest : List (Worker α)),
    before.workers = first ++ worker :: rest ∧ first.length = number ∧
      after = { before with
        workers := first ++
          { worker with
            queue := { worker.queue with items := worker.queue.items ++ [job] } } :: rest }

variable {d : Dispatcher α} {number : Nat}

theorem gains_setQueue {worker : Worker α} (worker_eq : d.workers[number]? = some worker)
    (job : Job α) : d.Gains number job (d.setQueue number (worker.queue.push job)) := by
  obtain ⟨lt, getElem_eq⟩ := List.getElem?_eq_some_iff.mp worker_eq
  have split_eq : d.workers = d.workers.take number ++ worker :: d.workers.drop (number + 1) := by
    rw [← getElem_eq, List.getElem_cons_drop lt, List.take_append_drop]
  refine ⟨d.workers.take number, worker, d.workers.drop (number + 1), split_eq,
    List.length_take_of_le lt.le, ?_⟩
  rw [setQueue, List.modify_eq_take_cons_drop lt, getElem_eq]
  rfl

/-- What a key chooses and has room gains what is submitted. -/
theorem exists_offer_eq_ok {key : QueueKey} (room : d.HasRoom (d.choose key)) (a : α) :
    ∃ after, d.offer key a = .ok after ∧ d.Gains (d.choose key) (.submission a) after := by
  obtain ⟨worker, worker_eq, isOpen, fits⟩ := room
  refine ⟨_, ?_, gains_setQueue worker_eq (.submission a)⟩
  rw [offer, withQueue_eq worker_eq, BoundedQueue.offer_of_isOpen isOpen, if_pos fits]
  rfl

/-- A queue that is open and refuses is full. -/
theorem offer_eq_full {key : QueueKey} {worker : Worker α}
    (worker_eq : d.workers[d.choose key]? = some worker) (isOpen : worker.queue.isOpen = true)
    (no_room : ¬ d.HasRoom (d.choose key)) (a : α) : d.offer key a = .error .full := by
  have not_fits : ¬ worker.queue.hasRoom = true :=
    fun fits ↦ no_room ⟨worker, worker_eq, isOpen, fits⟩
  rw [offer, withQueue_eq worker_eq, BoundedQueue.offer_of_isOpen isOpen, if_neg not_fits]
  rfl

/-- Where there is no room, what is submitted is refused. -/
theorem exists_offer_eq_error {key : QueueKey} (no_room : ¬ d.HasRoom (d.choose key)) (a : α) :
    ∃ error, d.offer key a = .error error := by
  cases worker_eq : d.workers[d.choose key]? with
  | none =>
    rw [offer, withQueue, worker_eq]
    exact ⟨.closed, rfl⟩
  | some worker =>
    cases isOpen : worker.queue.isOpen with
    | true => exact ⟨.full, offer_eq_full worker_eq isOpen no_room a⟩
    | false =>
      rw [offer, withQueue_eq worker_eq, BoundedQueue.offer_of_closed isOpen]
      exact ⟨.closed, rfl⟩

end Dispatcher

/-! ## The record of a refusal -/

namespace Auditor

/-- A refusal of an event has been recorded.  A fatal fault with the status 500 has been made of it,
and one record of the fault has been offered to the sink, on the error channel and with the fault
and everything behind the refusal as its cause.  No queue is different, and no loss has been
counted.  The failure that the caller gets has the same fault in it, and the answer of the sink if
the sink did not take the record. -/
structure RecordsRefusal (event : AuditEvent) (error : DispatchError) (before : Auditor)
    (fault : Fault) (record : AuditRecord) (failure : AuditError) (after : Auditor) : Prop where
  severity : fault.severity = .fatal
  status : fault.status.code = 500
  channel : record.channel = .error
  event : record.event = event
  chain : ∃ cause, record.cause = some cause ∧
    cause.chain = fault.message :: (Cause.root error.message).chain
  workers : after.dispatcher.workers = before.dispatcher.workers
  dropped : after.dispatcher.dropped = before.dispatcher.dropped
  offered : after.dispatcher.sink.offered = before.dispatcher.sink.offered ++ [record]
  /-- Nothing but the sink has changed. -/
  written : after = { before with dispatcher := (before.dispatcher.write record).2 }
  /-- What the sink answers to the record decides what the failure is. -/
  answered : failure =
    match before.dispatcher.sink.answer before.dispatcher.sink.offered record with
    | none => .recorded fault
    | some refusal => .unauditable cacheAdvice fault refusal

/-- The fault of a response that no queue takes. -/
def cacheFault (error : DispatchError) : Fault :=
  failureFault cacheAdvice cacheAdvice .interceptorException (.root error.message)

/-- To record a failure is to write one record past the workers, and what the sink answers to it
decides what the failure is. -/
theorem recordFailure_eq (advice attempt : String) (event : AuditEvent) (key : MessageKey)
    (error : Cause) (auditor : Auditor) :
    let fault := failureFault advice attempt key error
    let record := failureRecord event fault
    let answer := auditor.dispatcher.sink.answer auditor.dispatcher.sink.offered record
    auditor.recordFailure advice attempt event key error =
      (match answer with
        | none => .recorded fault
        | some refusal => .unauditable advice fault refusal,
      { auditor with dispatcher := (auditor.dispatcher.write record).2 },
      failureLog advice attempt event error :: answer.toList.map unauditableLog) := by
  intro fault record answer
  have write_eq : auditor.dispatcher.write record =
      (answer, (auditor.dispatcher.write record).2) := rfl
  rw [recordFailure]
  dsimp only
  rw [write_eq]
  cases answer with
  | none => rfl
  | some refusal => rfl

/-- In every state, to record a refusal is to write one record past the workers. -/
theorem recordsRefusal_recordFailure (event : AuditEvent) (error : DispatchError)
    (before : Auditor) :
    let outcome := before.recordFailure cacheAdvice cacheAdvice event .interceptorException
      (.root error.message)
    RecordsRefusal event error before (cacheFault error) (failureRecord event (cacheFault error))
      outcome.1 outcome.2.1 := by
  intro outcome
  have outcome_eq : outcome = _ := recordFailure_eq cacheAdvice cacheAdvice event _ _ before
  rw [outcome_eq]
  exact ⟨rfl, rfl, rfl, rfl, ⟨_, rfl, rfl⟩, rfl, rfl, rfl, rfl, rfl⟩

end Auditor

/-! ## Reachable states -/

namespace Dispatch

/-- In a run nobody closes a queue, so that every key chooses an open queue.  It has room exactly
if it is not full, and to be full is the only reason for which it refuses. -/
theorem exists_worker_run (process? : Submission → Option Processing) (hash : QueueKey → Nat)
    (workers capacity : Nat) (sink : Sink) (actions : List Action) (key : QueueKey) :
    let d := actions.foldl Action.apply (Dispatcher.start process? hash workers capacity sink)
    ∃ worker, d.workers[d.choose key]? = some worker ∧
      (d.HasRoom (d.choose key) ↔ worker.queue.items.length < worker.queue.capacity) ∧
      (¬ d.HasRoom (d.choose key) → ∀ submission, d.offer key submission = .error .full) := by
  intro d
  have d_eq : _ = d := History.plain_run process? hash workers capacity sink actions
  have lanes := History.lanes_run process? hash workers capacity sink actions
  obtain ⟨ticketWorker, ticketWorker_eq⟩ := lanes.exists_worker key
  have sound := (lanes.lane _ _ ticketWorker_eq).sound
  have worker_eq : d.workers[d.choose key]? = some (ticketWorker.map (·.submission)) := by
    rw [← d_eq, History.plain, Dispatcher.choose_map, lanes.choose_eq, Dispatcher.map,
      List.getElem?_map, ticketWorker_eq]
    rfl
  have room_eq : (ticketWorker.map (·.submission)).queue.hasRoom =
      decide (ticketWorker.queue.items.length < ticketWorker.queue.capacity) :=
    (BoundedQueue.hasRoom_map _ _).trans sound.hasRoom_eq
  have length_eq : (ticketWorker.map (·.submission)).queue.items.length =
      ticketWorker.queue.items.length := List.length_map _
  refine ⟨_, worker_eq, ?_, Dispatcher.offer_eq_full worker_eq sound.isOpen⟩
  rw [length_eq]
  constructor
  · rintro ⟨worker, other_eq, -, room⟩
    obtain rfl := Option.some.inj (worker_eq.symm.trans other_eq)
    exact of_decide_eq_true (room_eq.symm.trans room)
  · intro lt
    exact ⟨_, worker_eq, sound.isOpen, room_eq.trans (decide_eq_true lt)⟩

end Dispatch

/-! ## The call -/

namespace Auditor

/-- What is submitted for a response from a cache. -/
def cachedSubmission (stamp : Stamp) (audited : String) (value : Option Value) : Submission :=
  ⟨stamp.event .cachedServiceResponse "cacheGet" audited, .data (.response value), .info, none⟩

section Call

variable {thread : Nat} {stamp : Stamp} {audited : String} {value : Option Value}
  {auditor : Auditor}

theorem writeCached_of_offer_eq_ok {after : Dispatcher Submission}
    (offer_eq : auditor.dispatcher.offer (keyOf thread (cachedSubmission stamp audited value))
      (cachedSubmission stamp audited value) = .ok after) :
    auditor.writeCached thread stamp audited value =
      (.ok (), { auditor with dispatcher := after }, []) := by
  rw [cachedSubmission] at offer_eq
  rw [writeCached]
  dsimp only
  rw [offer_eq]

theorem writeCached_of_offer_eq_error {error : DispatchError}
    (offer_eq : auditor.dispatcher.offer (keyOf thread (cachedSubmission stamp audited value))
      (cachedSubmission stamp audited value) = .error error) :
    auditor.writeCached thread stamp audited value =
      let outcome := auditor.recordFailure cacheAdvice cacheAdvice
        (cachedSubmission stamp audited value).event .interceptorException (.root error.message)
      (.error outcome.1, outcome.2) := by
  rw [cachedSubmission] at offer_eq
  rw [writeCached]
  dsimp only
  rw [offer_eq]
  rfl

end Call

/-- To the dispatcher, the call is an offer, and the write of a failure if the offer is refused. -/
theorem exists_actions_writeCached (thread : Nat) (stamp : Stamp) (audited : String)
    (value : Option Value) (auditor : Auditor) :
    ∃ actions : List Dispatch.Action, (∀ action ∈ actions, action.IsOfAuditor) ∧
      (auditor.writeCached thread stamp audited value).2.1.dispatcher =
        actions.foldl Dispatch.Action.apply auditor.dispatcher := by
  let submission := cachedSubmission stamp audited value
  have apply_eq : (Dispatch.Action.submit thread .tries submission).apply auditor.dispatcher =
      (auditor.dispatcher.offer (keyOf thread submission) submission).toOption.getD
        auditor.dispatcher := rfl
  have submit_of : (Dispatch.Action.submit thread .tries submission).IsOfAuditor :=
    .submit thread .tries submission
  cases offer_eq : auditor.dispatcher.offer (keyOf thread submission) submission with
  | ok after =>
    rw [offer_eq] at apply_eq
    refine ⟨[.submit thread .tries submission], List.forall_mem_singleton.mpr submit_of, ?_⟩
    rw [writeCached_of_offer_eq_ok offer_eq, List.foldl_cons, List.foldl_nil, apply_eq]
    rfl
  | error error =>
    rw [offer_eq] at apply_eq
    refine ⟨[.submit thread .tries submission,
      .write (failureRecord submission.event (cacheFault error))], ?_, ?_⟩
    · exact List.forall_mem_cons.mpr ⟨submit_of,
        List.forall_mem_singleton.mpr (.write submission.event (cacheFault error))⟩
    · rw [writeCached_of_offer_eq_error offer_eq, List.foldl_cons, List.foldl_cons,
        List.foldl_nil, apply_eq]
      exact Dispatch.dispatcher_recordFailure auditor cacheAdvice cacheAdvice _ _ _

/-- **Responses from a cache are queued or recorded.**  In every state, either the queue that is
chosen has room, and then the call succeeds, this queue has got the submission, and nothing else is
different, the sink included; or it has no room, and then the call fails, and its refusal has been
recorded.  The record is written in the same way in whatever state the other callers and the workers
have left since the offer.

To the dispatcher, the call is one or two actions of a run, so that what is known of all runs is
known of runs with such calls.  In a run the queue has room exactly if it is not full, and to be
full is the only reason for a refusal. -/
theorem writeCached_queues_or_records (thread : Nat) (stamp : Stamp) (audited : String)
    (value : Option Value) :
    let submission := cachedSubmission stamp audited value
    let key := keyOf thread submission
    (∀ auditor : Auditor,
      let number := auditor.dispatcher.choose key
      (auditor.dispatcher.HasRoom number ∧
        ∃ after, auditor.dispatcher.Gains number (.submission submission) after ∧
          auditor.writeCached thread stamp audited value =
            (.ok (), { auditor with dispatcher := after }, [])) ∨
      (¬ auditor.dispatcher.HasRoom number ∧
        ∃ error fault record failure after logs,
          auditor.dispatcher.offer key submission = .error error ∧
          auditor.writeCached thread stamp audited value = (.error failure, after, logs) ∧
          RecordsRefusal submission.event error auditor fault record failure after)) ∧
    (∀ (error : DispatchError) (later : Auditor), ∃ fault record failure after logs,
      later.recordFailure cacheAdvice cacheAdvice submission.event .interceptorException
          (.root error.message) = (failure, after, logs) ∧
        RecordsRefusal submission.event error later fault record failure after) ∧
    (∀ auditor : Auditor, ∃ actions : List Dispatch.Action,
      (∀ action ∈ actions, action.IsOfAuditor) ∧
        (auditor.writeCached thread stamp audited value).2.1.dispatcher =
          actions.foldl Dispatch.Action.apply auditor.dispatcher) ∧
    ∀ process? hash workers capacity sink (actions : List Dispatch.Action),
      let d := actions.foldl Dispatch.Action.apply
        (Dispatcher.start process? hash workers capacity sink)
      ∃ worker, d.workers[d.choose key]? = some worker ∧
        (d.HasRoom (d.choose key) ↔ worker.queue.items.length < worker.queue.capacity) ∧
        (¬ d.HasRoom (d.choose key) → d.offer key submission = .error .full) := by
  intro submission key
  refine ⟨?_, ?_, exists_actions_writeCached thread stamp audited value, ?_⟩
  · intro auditor number
    by_cases room : auditor.dispatcher.HasRoom number
    · obtain ⟨after, offer_eq, gains⟩ := Dispatcher.exists_offer_eq_ok room submission
      exact .inl ⟨room, after, gains, writeCached_of_offer_eq_ok offer_eq⟩
    · obtain ⟨error, offer_eq⟩ := Dispatcher.exists_offer_eq_error room submission
      exact .inr ⟨room, error, _, _, _, _, _, offer_eq, writeCached_of_offer_eq_error offer_eq,
        recordsRefusal_recordFailure submission.event error auditor⟩
  · intro error later
    exact ⟨_, _, _, _, _, rfl, recordsRefusal_recordFailure submission.event error later⟩
  · intro process? hash workers capacity sink actions d
    obtain ⟨worker, worker_eq, room_iff, refuses⟩ :=
      Dispatch.exists_worker_run process? hash workers capacity sink actions key
    exact ⟨worker, worker_eq, room_iff, fun no_room ↦ refuses no_room submission⟩

/-- The second of two responses finds the only place taken, and its refusal is recorded. -/
example (stamp : Stamp) (settings : RenderSettings) (objects : ObjectTable) :
    let auditor : Auditor :=
      ⟨.start (Submission.process? settings objects) (fun _ ↦ 0) 1 1 .accepting, 0⟩
    let (first, between, _) := auditor.writeCached 0 stamp "QuoteService" (some (.text "cached"))
    let (second, after, _) := between.writeCached 0 stamp "QuoteService" none
    first = .ok () ∧ second = .error (.recorded (cacheFault .full)) ∧
      between.dispatcher.sink.offered = [] ∧ after.dispatcher.sink.offered.length = 1 :=
  ⟨rfl, rfl, rfl, rfl⟩

end Auditor

end AuditTrail

import Mathlib.Data.List.Infix
import AuditTrail.Proofs.Dispatch.Erasure

/-!
# The order of writes

Submissions with the same key take the same lane, in which nothing overtakes.  So the writes that
were made for them are at all times a prefix of the writes that they give rise to, one submission
after the other in the order in which they were accepted, whatever other submissions share the lane
and however the steps of the workers interleave.

The same key have the submissions with the same correlation identifier, from whatever threads, and
those of one thread that have none.
-/

namespace AuditTrail

/-- A submission that is processed gives the diagnostics of the failed tiers, all for its event, and
then its payload. -/
theorem Submission.exists_records_eq {settings : RenderSettings} {objects : ObjectTable}
    {submission : Submission} {processing : Processing}
    (process_eq : submission.process? settings objects = some processing) :
    ∃ diagnostics details,
      processing.records = diagnostics ++ [submission.payloadRecord details] ∧
        ∀ record ∈ diagnostics, record.kind = .diagnostic ∧ record.event = submission.event := by
  rw [process?] at process_eq
  split at process_eq
  · cases process_eq
    exact ⟨[], _, rfl, List.forall_mem_nil _⟩
  · obtain ⟨serialized, -, rfl⟩ := Option.map_eq_some_iff.mp process_eq
    refine ⟨_, _, rfl, fun record record_mem ↦ ?_⟩
    obtain ⟨failure, -, rfl⟩ := List.mem_map.mp record_mem
    exact ⟨rfl, rfl⟩

namespace Dispatch

/-- The writes for some class of submissions are made in the order in which these were accepted, and
they are accepted in the order in which they arrived. -/
structure History.InOrder (process? : Ticket → Option Processing) (h : History)
    (inClass : Ticket → Bool) : Prop where
  writes : (h.attempts.filter fun write ↦ inClass write.1) <+:
    (h.accepted.filter inClass).flatMap (Worker.produced process?)
  accepted : h.accepted.filter inClass <+: h.arrived.filter inClass

/-- The records of the submissions of a class are the records of the class. -/
theorem filter_flatMap_produced (process? : Ticket → Option Processing) (inClass : Ticket → Bool)
    (tickets : List Ticket) :
    ((tickets.flatMap (Worker.produced process?)).filter fun write ↦ inClass write.1) =
      (tickets.filter inClass).flatMap (Worker.produced process?) := by
  induction tickets with
  | nil => rfl
  | cons t rest ih =>
    have own_class {write : Ticket × AuditRecord} (write_mem : write ∈ Worker.produced process? t) :
        inClass write.1 = inClass t := by
      rw [Worker.fst_of_mem_produced write_mem]
    rw [List.flatMap_cons, List.filter_append, ih]
    by_cases t_in : inClass t = true
    · rw [List.filter_cons_of_pos t_in, List.flatMap_cons, List.filter_eq_self.mpr]
      exact fun write write_mem ↦ (own_class write_mem).trans t_in
    · rw [List.filter_cons_of_neg t_in, List.filter_eq_nil_iff.mpr, List.nil_append]
      exact fun write write_mem write_in ↦ t_in ((own_class write_mem).symm.trans write_in)

namespace History

namespace Lanes

variable {process? : Ticket → Option Processing} {route : QueueKey → Nat} {h : History}
  (lanes : h.Lanes process? route)

include lanes

/-- A class of submissions that share a key is in order. -/
theorem inOrder {inClass : Ticket → Bool} (key : QueueKey)
    (key_eq : ∀ t, inClass t = true → t.key = key) : h.InOrder process? inClass := by
  obtain ⟨worker, worker_eq⟩ := lanes.exists_worker key
  have lane := lanes.lane _ worker worker_eq
  have on {t : Ticket} (t_in : inClass t = true) : decide (route t.key = route key) = true :=
    decide_eq_true (congrArg route (key_eq t t_in))
  have filter_onLane (tickets : List Ticket) :
      (onLane route (route key) tickets).filter inClass = tickets.filter inClass :=
    filter_filter_of_imp fun _ _ t_in ↦ on t_in
  have filter_writesOnLane : ((writesOnLane route (route key) h.attempts).filter
      fun write ↦ inClass write.1) = h.attempts.filter fun write ↦ inClass write.1 :=
    filter_filter_of_imp fun _ _ write_in ↦ on write_in
  constructor
  case writes =>
    have prefix_attempts := lane.prefix_attempts.filter fun write ↦ inClass write.1
    have prefix_started := lane.prefix_started.filter inClass
    rw [filter_writesOnLane, filter_flatMap_produced, filter_onLane] at prefix_attempts
    rw [filter_onLane, filter_onLane] at prefix_started
    exact prefix_attempts.trans (prefix_started.flatMap _)
  case accepted =>
    have prefix_accepted := lane.prefix_accepted.filter inClass
    rwa [filter_onLane, filter_onLane] at prefix_accepted

end Lanes

/-- The sink is offered what the history says that is written. -/
theorem Change.offered_eq {h after : History} {action : Action} (change : h.Change action after)
    {offered : List AuditRecord}
    (offered_eq : h.dispatcher.sink.offered = offered ++ h.writes.map (·.2)) :
    after.dispatcher.sink.offered = offered ++ after.writes.map (·.2) := by
  cases change with
  | push | join | drop | refuse | mark | strayMark | strayWork => exact offered_eq
  | @work number worker worker_eq =>
    have move := worker.move_step h.dispatcher.process? number h.dispatcher.sink
    rw [sink_work worker_eq, move.offered_eq, offered_eq, writes_work worker_eq, List.map_append,
      List.map_map, List.append_assoc]
    rfl
  | write =>
    simp only [Dispatcher.write, Sink.offered_write, offered_eq, List.map_append, List.map_cons,
      List.map_nil, List.append_assoc]

end History

/-- **Writes are made in the order of acceptance.**  After any actions of any threads and workers,
of any number of workers and with any hash, the writes for the submissions with one correlation
identifier, and for those of one thread that have none, are a prefix of the records that the
accepted ones among them give rise to, in the order of their acceptance.  The sink has been offered
these writes and those past the workers, in the order of the history, which is the run of the
dispatcher without its tickets.  The records of a rendered submission are its diagnostics and then
its payload. -/
theorem writes_in_order (process? : Submission → Option Processing) (hash : QueueKey → Nat)
    (workers capacity : Nat) (sink : Sink) (actions : List Action) :
    let h := (History.start process? hash workers capacity sink).run actions
    h.plain process? =
        actions.foldl Action.apply (Dispatcher.start process? hash workers capacity sink) ∧
      (h.plain process?).sink.offered = sink.offered ++ h.writes.map (·.2) ∧
      (∀ id, h.InOrder (fun t ↦ process? t.submission)
        fun t ↦ t.submission.event.correlationId = some id) ∧
      (∀ thread, h.InOrder (fun t ↦ process? t.submission)
        fun t ↦ t.submission.event.correlationId = none ∧ t.thread = thread) ∧
      ∀ settings objects submission processing,
        Submission.process? settings objects submission = some processing →
          ∃ diagnostics details,
            processing.records = diagnostics ++ [submission.payloadRecord details] ∧
              ∀ record ∈ diagnostics,
                record.kind = .diagnostic ∧ record.event = submission.event := by
  intro h
  have lanes := History.lanes_run process? hash workers capacity sink actions
  refine ⟨?_, ?_, fun id ↦ ?_, fun thread ↦ ?_, ?_⟩
  · exact History.plain_run process? hash workers capacity sink actions
  · exact History.run_induction_of_change (List.append_nil _).symm
      (fun change offered_eq ↦ change.offered_eq offered_eq) actions
  · refine lanes.inOrder (.correlation id) fun t t_in ↦ ?_
    rw [Ticket.key, AuditEvent.queueKey, of_decide_eq_true t_in]
  · refine lanes.inOrder (.thread thread) fun t t_in ↦ ?_
    obtain ⟨none_eq, thread_eq⟩ := of_decide_eq_true t_in
    rw [Ticket.key, AuditEvent.queueKey, none_eq, thread_eq]
  · exact fun _ _ _ _ process_eq ↦ Submission.exists_records_eq process_eq

end Dispatch

end AuditTrail

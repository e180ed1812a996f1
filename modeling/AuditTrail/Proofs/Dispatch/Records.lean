import AuditTrail.Capture.Auditor
import AuditTrail.Proofs.Dispatch.Accounting
import AuditTrail.Proofs.Serialize.Tiers

/-!
# The records of a submission

Which records a submission leaves is said here without the worker that writes them: one for every
tier that failed, in the order in which the tiers are tried, and then one for the text, on the
channel of the severity.  Only errors and fatal errors keep the cause that they were submitted with.

The sink has no say in this.  Whatever it answers and whatever happens meanwhile, the writes for a
submission are the first ones of these records, and all of them once the submission is processed.
So a record off the error channel never has a cause, as nobody writes past the workers but the
auditor, and the auditor only to the error channel.
-/

namespace AuditTrail

/-! ## What a submission is to leave -/

namespace AuditRecord

/-- The record reports for an event that a tier failed. -/
structure Reports (about : AuditEvent) (failure : TierFailure) (record : AuditRecord) : Prop where
  channel : record.channel = .error
  kind : record.kind = .diagnostic
  event : record.event = about
  details : record.details = failure.message
  cause : record.cause = some failure.error.toCause

/-- Reports are for the error channel. -/
theorem channel_of_forall₂_reports {about : AuditEvent} {failures : List TierFailure}
    {diagnostics : List AuditRecord}
    (reports : List.Forall₂ (Reports about) failures diagnostics) :
    ∀ diagnostic ∈ diagnostics, diagnostic.channel = .error := by
  induction reports with
  | nil => exact List.forall_mem_nil _
  | cons reported _ ih => exact List.forall_mem_cons.mpr ⟨reported.channel, ih⟩

/-- The record shows the text of a submission. -/
structure Presents (submission : Submission) (text : String) (record : AuditRecord) : Prop where
  channel : record.channel = .ofSeverity submission.severity
  kind : record.kind = .payload
  event : record.event = submission.event
  details : record.details = text
  cause : record.cause =
    if submission.severity = .error ∨ submission.severity = .fatal then submission.cause else none

end AuditRecord

/-- What a payload is rendered to: a text, after the failures of some tiers. -/
inductive Payload.IsRendered (settings : RenderSettings) (objects : ObjectTable) :
    Payload → List TierFailure → String → Prop
  | text (s : String) : IsRendered settings objects (.text s) [] s
  | data {data : AuditData} {serialized : Serialized}
      (serialized_eq : settings.serialize? objects data = some serialized) :
      IsRendered settings objects (.data data) serialized.failures serialized.text

/-- The records for a submission that has been rendered: a report of every failure, in order, and
the text. -/
def Submission.Leaves (submission : Submission) (failures : List TierFailure) (text : String)
    (records : List AuditRecord) : Prop :=
  ∃ diagnostics payload, records = diagnostics ++ [payload] ∧
    List.Forall₂ (AuditRecord.Reports submission.event) failures diagnostics ∧
    payload.Presents submission text

variable {settings : RenderSettings} {objects : ObjectTable}

/-- The failures are those of the tiers before some tier, in the order in which these are tried. -/
theorem Payload.IsRendered.exists_tiers_eq {payload : Payload} {failures : List TierFailure}
    {text : String} (rendered : payload.IsRendered settings objects failures text) :
    ∃ tier : Tier, failures.map (·.tier) = tier.earlier := by
  cases rendered with
  | text => exact ⟨.structured, rfl⟩
  | @data data serialized serialized_eq =>
    refine ⟨serialized.tier, ?_⟩
    have first := RenderSettings.serialize?_eq_some_iff.mp serialized_eq
    have same : List.Forall₂ Eq (serialized.failures.map (·.tier)) serialized.tier.earlier := by
      rw [List.forall₂_map_left_iff]
      refine (first.failures.imp ?_).flip
      intro tier failure failed
      exact failed.1
    rwa [List.forall₂_eq_eq_eq] at same

namespace Submission

variable {submission : Submission} {failures : List TierFailure} {text : String}
  {records : List AuditRecord} {record : AuditRecord} {processing : Processing}

/-- The record of a failed tier reports it. -/
theorem reports_diagnostic (submission : Submission) (failure : TierFailure) :
    (submission.diagnostic failure).Reports submission.event failure :=
  ⟨rfl, rfl, rfl, rfl, rfl⟩

/-- The payload record shows the text; the error channel is that of errors and fatal errors. -/
theorem presents_payloadRecord (submission : Submission) (text : String) :
    (submission.payloadRecord text).Presents submission text := by
  refine ⟨rfl, rfl, rfl, rfl, ?_⟩
  rw [payloadRecord, AuditRecord.cause_payload, Channel.recordsCause_ofSeverity]
  cases submission.severity <;> rfl

/-- A submission that is rendered is processed to the records that it is to leave. -/
theorem exists_process?_eq
    (rendered : submission.payload.IsRendered settings objects failures text) :
    ∃ processing, submission.process? settings objects = some processing ∧
      submission.Leaves failures text processing.records := by
  generalize payload_eq : submission.payload = payload at rendered
  cases rendered with
  | text =>
    refine ⟨⟨[], [submission.payloadRecord text]⟩, ?_, [], _, rfl, .nil,
      submission.presents_payloadRecord text⟩
    rw [process?, payload_eq]
  | @data data serialized serialized_eq =>
    refine ⟨⟨settings.serializeLogs data, serialized.failures.map submission.diagnostic ++
      [submission.payloadRecord serialized.text]⟩, ?_, _, _, rfl, ?_,
      submission.presents_payloadRecord _⟩
    · rw [process?, payload_eq]
      exact congrArg (Option.map _) serialized_eq
    · rw [List.forall₂_map_right_iff, List.forall₂_same]
      intro failure _
      exact submission.reports_diagnostic failure

/-- Nothing is processed but what is rendered. -/
theorem exists_isRendered (process_eq : submission.process? settings objects = some processing) :
    ∃ failures text, submission.payload.IsRendered settings objects failures text := by
  rw [process?] at process_eq
  split at process_eq
  next text payload_eq => exact ⟨[], text, payload_eq ▸ .text text⟩
  next data payload_eq =>
    obtain ⟨serialized, serialized_eq, -⟩ := Option.map_eq_some_iff.mp process_eq
    refine ⟨serialized.failures, serialized.text, ?_⟩
    rw [payload_eq]
    exact .data serialized_eq

/-- Workers write for a submission that is rendered what it is to leave. -/
theorem leaves_records
    (rendered : submission.payload.IsRendered settings objects failures text) :
    submission.Leaves failures text (Worker.records (process? settings objects) submission) := by
  obtain ⟨processing, process_eq, leaves⟩ := exists_process?_eq rendered
  rw [Worker.records, process_eq]
  exact leaves

/-- Workers write nothing for a submission that is not rendered. -/
theorem records_eq_nil
    (not_rendered :
      ¬ ∃ failures text, submission.payload.IsRendered settings objects failures text) :
    Worker.records (process? settings objects) submission = [] := by
  cases process_eq : submission.process? settings objects with
  | none =>
    rw [Worker.records, process_eq]
    rfl
  | some processing => exact absurd (exists_isRendered process_eq) not_rendered

/-- Off the error channel the records of a submission have no cause. -/
theorem Leaves.cause_eq_none (leaves : submission.Leaves failures text records)
    (record_mem : record ∈ records) (channel_ne : record.channel ≠ .error) :
    record.cause = none := by
  obtain ⟨diagnostics, payload, rfl, reports, presents⟩ := leaves
  rcases List.mem_append.mp record_mem with diagnostic_mem | payload_mem
  · exact absurd (AuditRecord.channel_of_forall₂_reports reports record diagnostic_mem) channel_ne
  · obtain rfl := List.mem_singleton.mp payload_mem
    rw [presents.cause, if_neg]
    intro failed
    rw [presents.channel] at channel_ne
    rcases failed with severity_eq | severity_eq
    · exact channel_ne (congrArg Channel.ofSeverity severity_eq)
    · exact channel_ne (congrArg Channel.ofSeverity severity_eq)

/-- Under a total date format everything is rendered. -/
theorem exists_isRendered_of_total (total : settings.dateFormat.IsTotal) (objects : ObjectTable)
    (payload : Payload) : ∃ failures text, payload.IsRendered settings objects failures text := by
  cases payload with
  | text text => exact ⟨[], text, .text text⟩
  | data data =>
    obtain ⟨serialized, serialized_eq⟩ := Option.isSome_iff_exists.mp
      (RenderSettings.isSome_serialize? total objects data)
    exact ⟨_, _, .data serialized_eq⟩

end Submission

/-! ## Past the workers -/

namespace Dispatch

/-- Past the workers only failures of auditing are written. -/
inductive Action.IsOfAuditor : Action → Prop
  | submit (thread : Nat) (manner : Manner) (submission : Submission) :
      IsOfAuditor (.submit thread manner submission)
  | mark (id number : Nat) : IsOfAuditor (.mark id number)
  | work (number : Nat) : IsOfAuditor (.work number)
  | write (event : AuditEvent) (fault : Fault) :
      IsOfAuditor (.write (Auditor.failureRecord event fault))

/-- To record a failure is to write it past the workers. -/
theorem dispatcher_recordFailure (auditor : Auditor) (advice attempt : String) (event : AuditEvent)
    (key : MessageKey) (error : Cause) :
    (auditor.recordFailure advice attempt event key error).2.1.dispatcher =
      (Action.write (Auditor.failureRecord event
        (Auditor.failureFault advice attempt key error))).apply auditor.dispatcher := by
  rw [Auditor.recordFailure]
  dsimp only
  split <;> rfl

namespace History

/-- Past the workers nothing but failures has been written. -/
def OnlyFailuresPast (h : History) : Prop :=
  ∀ write ∈ h.writes, write.1 = none →
    ∃ event fault, write.2 = Auditor.failureRecord event fault

/-- An action writes past the workers only what it is to write. -/
theorem OnlyFailuresPast.act {h : History} {action : Action} (only : h.OnlyFailuresPast)
    (of_auditor : action.IsOfAuditor) : (h.act action).OnlyFailuresPast := by
  cases of_auditor with
  | submit thread manner submission =>
    rw [OnlyFailuresPast, History.act, History.submit]
    split <;> exact only
  | mark => exact only
  | work number =>
    cases worker_eq : h.dispatcher.workers[number]? with
    | none => rwa [History.act, work_of_none worker_eq]
    | some worker =>
      rw [OnlyFailuresPast, History.act, writes_work worker_eq, List.forall_mem_append]
      refine ⟨only, fun write write_mem none_eq ↦ ?_⟩
      obtain ⟨written, -, rfl⟩ := List.mem_map.mp write_mem
      cases none_eq
  | write event fault =>
    refine List.forall_mem_append.mpr ⟨only, List.forall_mem_singleton.mpr fun _ ↦ ?_⟩
    exact ⟨event, fault, rfl⟩

/-- Run after run, past the workers only failures are written. -/
theorem OnlyFailuresPast.run {h : History} (only : h.OnlyFailuresPast) {actions : List Action}
    (of_auditor : ∀ action ∈ actions, action.IsOfAuditor) : (h.run actions).OnlyFailuresPast := by
  induction actions generalizing h with
  | nil => exact only
  | cons action rest ih =>
    obtain ⟨first, later⟩ := List.forall_mem_cons.mp of_auditor
    exact ih (only.act first) later

/-- What was written for a submission is among its records. -/
theorem Lanes.mem_records_of_attempt {process? : Ticket → Option Processing}
    {route : QueueKey → Nat} {h : History} (lanes : h.Lanes process? route) (books : h.Books)
    {write : Ticket × AuditRecord} (write_mem : write ∈ h.attempts) :
    write.2 ∈ Worker.records process? write.1 := by
  have made := lanes.mem_made_of_started books (lanes.mem_started_of_attempt write_mem)
  have written : write.2 ∈ h.writesFor write.1.number :=
    List.mem_map.mpr ⟨write, List.mem_filter.mpr ⟨write_mem, decide_eq_true rfl⟩, rfl⟩
  exact (lanes.prefix_writesFor books made).subset written

end History

/-! ## All submissions of all runs -/

/-- Off the error channel no record of a submission has a cause. -/
theorem cause_eq_none_of_mem_records {submission : Submission} {record : AuditRecord}
    (record_mem : record ∈ Worker.records (Submission.process? settings objects) submission)
    (channel_ne : record.channel ≠ .error) : record.cause = none := by
  by_cases rendered : ∃ failures text, submission.payload.IsRendered settings objects failures text
  · obtain ⟨failures, text, rendered⟩ := rendered
    exact (Submission.leaves_records rendered).cause_eq_none record_mem channel_ne
  · rw [Submission.records_eq_nil rendered] at record_mem
    cases record_mem

/-- **What a submission leaves.**  For every submission there is a list of records that depends on
nothing but the submission: once it is rendered, the reports of the tiers that failed, in the order
in which tiers are tried, and then its text.  Whatever the sink answers, and whatever else happens,
what was written for the submission is at all times a first part of the list, and the whole list as
soon as the submission has been processed.  A text is rendered to itself without failures, and
under a total date format everything is rendered; where there is no rendering, nothing is written.

Past the workers the auditor writes failures of auditing and nothing else.  So of all that the sink
is offered, nothing off the error channel has a cause. -/
theorem records_of_submissions (settings : RenderSettings) (objects : ObjectTable) :
    (∀ submission : Submission, ∃ records,
      (∀ failures text, submission.payload.IsRendered settings objects failures text →
        (∃ tier : Tier, failures.map (·.tier) = tier.earlier) ∧
          submission.Leaves failures text records) ∧
      (settings.dateFormat.IsTotal → ∃ failures text,
        submission.payload.IsRendered settings objects failures text) ∧
      ((¬ ∃ failures text, submission.payload.IsRendered settings objects failures text) →
        records = []) ∧
      ∀ hash workers capacity sink actions,
        let h := (History.start (Submission.process? settings objects) hash workers capacity
          sink).run actions
        ∀ t ∈ h.made, t.submission = submission →
          h.writesFor t.number <+: records ∧ (t ∈ h.processed → h.writesFor t.number = records)) ∧
    (∀ auditor advice attempt event key error, ∃ action, Action.IsOfAuditor action ∧
      (Auditor.recordFailure advice attempt event key error auditor).2.1.dispatcher =
        action.apply auditor.dispatcher) ∧
    ∀ hash workers capacity sink actions, (∀ action ∈ actions, Action.IsOfAuditor action) →
      let h := (History.start (Submission.process? settings objects) hash workers capacity
        sink).run actions
      (actions.foldl Action.apply (Dispatcher.start (Submission.process? settings objects) hash
          workers capacity sink)).sink.offered = sink.offered ++ h.writes.map (·.2) ∧
        ∀ write ∈ h.writes, write.2.channel ≠ .error → write.2.cause = none := by
  refine ⟨?_, ?_, ?_⟩
  · intro submission
    refine ⟨Worker.records (Submission.process? settings objects) submission, ?_, ?_, ?_, ?_⟩
    · intro failures text rendered
      exact ⟨rendered.exists_tiers_eq, Submission.leaves_records rendered⟩
    · intro total
      exact Submission.exists_isRendered_of_total total objects submission.payload
    · exact Submission.records_eq_nil
    · rintro hash workers capacity sink actions h t t_made rfl
      have lanes := History.lanes_run (Submission.process? settings objects) hash workers capacity
        sink actions
      have books := History.books_run (Submission.process? settings objects) hash workers capacity
        sink actions
      exact ⟨lanes.prefix_writesFor books t_made, lanes.writesFor_of_processed books⟩
  · intro auditor advice attempt event key error
    exact ⟨_, .write event _, dispatcher_recordFailure auditor advice attempt event key error⟩
  · intro hash workers capacity sink actions of_auditor h
    have lanes := History.lanes_run (Submission.process? settings objects) hash workers capacity
      sink actions
    have books := History.books_run (Submission.process? settings objects) hash workers capacity
      sink actions
    have only : h.OnlyFailuresPast := by
      refine History.OnlyFailuresPast.run ?_ of_auditor
      exact List.forall_mem_nil _
    constructor
    · rw [← History.plain_run]
      exact History.run_induction_of_change (List.append_nil _).symm
        (fun change offered_eq ↦ change.offered_eq offered_eq) actions
    · rintro ⟨ticket, record⟩ write_mem channel_ne
      cases ticket with
      | none =>
        obtain ⟨event, fault, record_eq⟩ := only _ write_mem rfl
        exact absurd (congrArg AuditRecord.channel record_eq) channel_ne
      | some t =>
        have attempt_mem : (t, record) ∈ h.attempts :=
          List.mem_filterMap.mpr ⟨_, write_mem, rfl⟩
        exact cause_eq_none_of_mem_records (lanes.mem_records_of_attempt books attempt_mem)
          channel_ne

end Dispatch

end AuditTrail

import AuditTrail.Capture.Dispatcher
import AuditTrail.Proofs.Dispatch.Stages

/-!
# Histories of a dispatcher

A history is a run of a dispatcher together with what has become of every submission so far.  The
run is a list of actions of callers and workers in any order: since every operation of a caller and
every step of a worker is a function on the state, these lists are the interleavings of all threads.

Submissions are told apart by tickets.  A ticket is what goes through the queues; its processing
looks at the submission only, so that the dispatcher does for it what it would do without.  The
lists of a history are only ever appended to, and each of them records what the dispatcher did: the
outcome of a call, or the effect of a worker's step.
-/

namespace AuditTrail

namespace Dispatch

/-- How a caller hands in a submission. -/
inductive Manner where
  /-- What does not fit is dropped. -/
  | drops
  /-- What does not fit is refused. -/
  | tries
  /-- What does not fit waits. -/
  | waits
  deriving DecidableEq, Repr

/-- A submission with the circumstances in which it was made. -/
structure Ticket where
  /-- The number of submissions that were made before. -/
  number : Nat
  thread : Nat
  manner : Manner
  submission : Submission

/-- The key that chooses the queue of a submission. -/
def Ticket.key (t : Ticket) : QueueKey :=
  t.submission.event.queueKey t.thread

/-- What a caller does to the dispatcher. -/
def Manner.call {α : Type} (manner : Manner) (key : QueueKey) (a : α) (dispatcher : Dispatcher α) :
    Dispatcher α :=
  match manner with
  | drops => (dispatcher.submit key a).1
  | tries => (dispatcher.offer key a).toOption.getD dispatcher
  | waits => (dispatcher.enter key a).toOption.getD dispatcher

/-- A dispatcher and what has happened to it, with everything in the order in which it happened. -/
structure History where
  dispatcher : Dispatcher Ticket
  /-- All submissions. -/
  made : List Ticket := []
  /-- The submissions that entered a queue or began to wait for room in it. -/
  arrived : List Ticket := []
  /-- The submissions that entered a queue. -/
  accepted : List Ticket := []
  /-- The submissions that a worker took from a queue. -/
  started : List Ticket := []
  /-- The submissions that a worker has finished. -/
  processed : List Ticket := []
  dropped : List Ticket := []
  /-- The submissions whose callers were told that they were refused. -/
  refused : List (Ticket × DispatchError) := []
  /-- The records that were offered to the sink, each with its submission if it has one. -/
  writes : List (Option Ticket × AuditRecord) := []

/-- What can happen next. -/
inductive Action where
  | submit (thread : Nat) (manner : Manner) (submission : Submission)
  /-- A caller who flushes puts a mark into the queue of a worker. -/
  | mark (id number : Nat)
  /-- A worker makes a step. -/
  | work (number : Nat)
  /-- Somebody writes to the sink past the workers. -/
  | write (record : AuditRecord)

/-- What an action does to a dispatcher of plain submissions. -/
def Action.apply (dispatcher : Dispatcher Submission) : Action → Dispatcher Submission
  | submit thread manner submission =>
    manner.call (submission.event.queueKey thread) submission dispatcher
  | mark id number => (dispatcher.enterMark id number).toOption.getD dispatcher
  | work number => (dispatcher.step number).1
  | write record => (dispatcher.write record).2

namespace History

/-- The history of a dispatcher that has just been started. -/
def start (process? : Submission → Option Processing) (hash : QueueKey → Nat)
    (workers capacity : Nat) (sink : Sink) : History where
  dispatcher := .start (fun t ↦ process? t.submission) hash workers capacity sink

/-- A submission is made. -/
def submit (t : Ticket) (h : History) : History :=
  let after := { h with dispatcher := t.manner.call t.key t h.dispatcher, made := h.made ++ [t] }
  match h.dispatcher.offer t.key t, t.manner with
  | .ok _, _ => { after with arrived := h.arrived ++ [t], accepted := h.accepted ++ [t] }
  | .error .full, .drops => { after with dropped := h.dropped ++ [t] }
  | .error .full, .waits => { after with arrived := h.arrived ++ [t] }
  | .error error, _ => { after with refused := h.refused ++ [(t, error)] }

/-- A worker makes a step. -/
def work (number : Nat) (h : History) : History :=
  match h.dispatcher.workers[number]? with
  | some worker =>
    let effect := worker.effect h.dispatcher.process?
    { h with
      dispatcher := (h.dispatcher.step number).1
      accepted := h.accepted ++ effect.admitted
      started := h.started ++ effect.started
      processed := h.processed ++ effect.finished
      writes := h.writes ++ effect.written.map fun (t, record) ↦ (some t, record) }
  | none => h

/-- An action happens. -/
def act (h : History) : Action → History
  | .submit thread manner submission => h.submit ⟨h.made.length, thread, manner, submission⟩
  | .mark id number =>
    { h with dispatcher := (h.dispatcher.enterMark id number).toOption.getD h.dispatcher }
  | .work number => h.work number
  | .write record =>
    { h with
      dispatcher := (h.dispatcher.write record).2
      writes := h.writes ++ [(none, record)] }

/-- Some actions happen one after the other. -/
def run (actions : List Action) (h : History) : History :=
  actions.foldl act h

@[simp] theorem run_nil (h : History) : h.run [] = h := rfl

theorem run_append (actions more : List Action) (h : History) :
    h.run (actions ++ more) = (h.run actions).run more :=
  List.foldl_append

/-- The writes for submissions, without those past the workers. -/
def attempts (h : History) : List (Ticket × AuditRecord) :=
  h.writes.filterMap fun (t?, record) ↦ t?.map (·, record)

/-- What holds at the start and is kept by every action holds at all times. -/
theorem run_induction {motive : History → Prop} {h : History} (start : motive h)
    (act : ∀ h action, motive h → motive (h.act action)) (actions : List Action) :
    motive (h.run actions) := by
  induction actions generalizing h with
  | nil => exact start
  | cons action rest ih => exact ih (act h action start)

end History

end Dispatch

end AuditTrail

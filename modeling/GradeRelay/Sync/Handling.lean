import GradeRelay.Store.Retry
import GradeRelay.Sync.Admission
import GradeRelay.Sync.Report
import GradeRelay.Sync.Resit
/-!
# Handling an event

One event goes through admission, the books and the deliveries. A skip or a failed delivery is
part of the report; only a fault ends without one. What was written before a fault stays. Each
notice given to the transport goes on record, and calls are counted by that record.

A write to the store does not fail here but where the tables themselves refuse it: that the store
can be written to is taken for granted. Of a store that is open for reading only the console judges
by the report, `Report.writes`.

* `handOver_sent`, `handOverAll_sent`: the record of the calls grows by the notices handed over.
-/

namespace GradeRelay

/-- What the transport answers to the deliveries of one event, counted from zero: nothing when the
notice arrives, else why it did not. -/
abbrev Transport := Nat → Notice → Option DeliveryFailure

/-- Gives a notice to the transport, under the number of calls on record: its answer, and the
record with this call. -/
def Transport.give (transport : Transport) (sent : List Notice) (notice : Notice) :
    Option DeliveryFailure × List Notice :=
  (transport sent.length notice, sent ++ [notice])

/-- What handling an event leaves behind. -/
structure Handled where
  result : Except Fault Report
  store : Store
  /-- The notices given to the transport, in the order of the calls. -/
  sent : List Notice

/-- What changed in the books for one event. -/
structure BookChanges where
  queue : Option Transition := none
  allowance : Option Allowance.Change := none
  carried : Nat := 0
  deriving DecidableEq, Repr, Inhabited

namespace Store

variable (s : Store)

/-- Brings the books up to date: for a graded question the allowance and then the queue, for a
changed attempt the queue and then the grades it takes over, for a completion nothing. -/
def keepBooks (o : Occasion) (kind : Event.Kind) (d : Dossier) : Except Fault BookChanges × Store :=
  match kind with
  | .questionGraded =>
    match s.grantResit d.assessment d.attempt with
    | .error f => (.error f, s)
    | .ok (allowance, s) =>
      match s.track o d.attempt with
      | .error f => (.error (.store f), s)
      | .ok (t, s) => (.ok { queue := some t, allowance }, s)
  | .attemptUpdated =>
    match s.track o d.attempt with
    | .error f => (.error (.store f), s)
    | .ok (t, s) =>
      match s.takeOver o d.assessment d.attempt with
      | .error f => (.error f, s)
      | .ok (carried, s) => (.ok { queue := some t, carried }, s)
  | .completionUpdated => (.ok {}, s)

/-- The external id of the grader that an attempt is assigned to. -/
def assessorOf (attemptId : AttemptId) : Except StoreFault (Option String) := do
  let review ← s.review? attemptId
  return (review.bind (·.assignee)).bind fun id => (s.user? id).map (·.externalId)

/-- The notices to be delivered for an event: for a graded question the activity's, for a changed
attempt the attempt's and, where feedback is not deferred and the score is full, the activity's,
for a completion the activity's as of the time of the event. -/
def notices (now : Timestamp) (e : Event) (d : Dossier) : Except StoreFault (List Notice) :=
  match e.kind with
  | .questionGraded => do
    let assessor ← s.assessorOf d.attempt.id
    return [d.notice now assessor .activities]
  | .attemptUpdated =>
    if !d.assessment.isDeferred && d.isPassed then do
      let assessor ← s.assessorOf d.attempt.id
      return [d.notice now assessor .attempts, d.notice now assessor .activities]
    else .ok [d.notice now none .attempts]
  | .completionUpdated => .ok [d.notice e.occurredAt none .activities]

/-- Hands a notice over, and keeps a retry when it does not arrive: how the delivery went, the store
and the record of the calls. -/
def handOver (transport : Transport) (now : Timestamp) (d : Dossier) (sent : List Notice)
    (notice : Notice) : Handover × Store × List Notice :=
  match transport.give sent notice with
  | (none, sent) => (⟨notice.resource, .delivered⟩, s, sent)
  | (some failure, sent) =>
    let (recording, s) := s.keepRetry (d.retry now notice.resource)
    (⟨notice.resource, .failed failure.message recording⟩, s, sent)

/-- Hands notices over one after the other. -/
def handOverAll (transport : Transport) (now : Timestamp) (d : Dossier) (s : Store)
    (sent : List Notice) : List Notice → List Handover × Store × List Notice
  | [] => ([], s, sent)
  | n :: rest =>
    let (handover, s, sent) := s.handOver transport now d sent n
    let (handovers, s, sent) := handOverAll transport now d s sent rest
    (handover :: handovers, s, sent)

/-- Follows up an event whose rows are gathered and admitted. -/
def followUp (transport : Transport) (o : Occasion) (e : Event) (d : Dossier) : Handled :=
  match s.keepBooks o e.kind d with
  | (.error f, s) => ⟨.error f, s, []⟩
  | (.ok books, s) =>
    let report : Report :=
      { kind := some e.kind, attemptId := some d.attempt.id, queue := books.queue,
        allowance := books.allowance, carried := books.carried }
    match d.refusal? with
    | some reason => ⟨.ok { report with skipped := some reason }, s, []⟩
    | none =>
      match s.notices o.now e d with
      | .error f => ⟨.error (.store f), s, []⟩
      | .ok notices =>
        let (handovers, s, sent) := handOverAll transport o.now d s [] notices
        ⟨.ok { report with handovers }, s, sent⟩

/-- Handles one raw event. The acting user is the one given, else the event's, else the event's
subject. -/
def handle (transport : Transport) (graderRole : Int) (raw : Json) (actor : Option UserId)
    (now : Timestamp) : Handled :=
  match Event.ofJson raw now with
  | .error reason => ⟨.ok { skipped := some reason }, s, []⟩
  | .ok e =>
    let o : Occasion := ⟨(actor.or e.actor).getD e.subject, now, graderRole⟩
    let report : Report := { kind := some e.kind, attemptId := e.namedAttempt? }
    match s.gather e with
    | .error (.fault f) => ⟨.error f, s, []⟩
    | .error (.skip reason) => ⟨.ok { report with skipped := some reason }, s, []⟩
    | .ok d =>
      match s.refusal? e.kind d with
      | some reason =>
        ⟨.ok { report with attemptId := some d.attempt.id, skipped := some reason }, s, []⟩
      | none => s.followUp transport o e d

@[simp]
theorem handOver_sent (transport : Transport) (now : Timestamp) (d : Dossier)
    (sent : List Notice) (n : Notice) :
    (s.handOver transport now d sent n).2.2 = sent ++ [n] := by
  unfold handOver Transport.give
  cases transport sent.length n <;> rfl

@[simp]
theorem handOverAll_sent (transport : Transport) (now : Timestamp) (d : Dossier)
    (sent ns : List Notice) : (handOverAll transport now d s sent ns).2.2 = sent ++ ns := by
  induction ns generalizing s sent with
  | nil => simp [handOverAll]
  | cons n rest ih => simp [handOverAll, ih]

end Store

end GradeRelay

import GradeRelay.Allowance
import GradeRelay.Event
import GradeRelay.Retry
import GradeRelay.Review
/-!
# Reports

What became of one event: why it was skipped, what changed in the books, and how each delivery
went. `Report.toJson` is the report as it is printed.
-/

namespace GradeRelay

/-- How a delivery went. -/
inductive Arrival where
  | delivered
  | failed (error : String) (recording : Recording)
  deriving DecidableEq, Repr, Inhabited

/-- A delivery and how it went. -/
structure Handover where
  resource : Resource
  arrival : Arrival
  deriving DecidableEq, Repr, Inhabited

/-- What became of one event. -/
structure Report where
  kind : Option Event.Kind := none
  attemptId : Option AttemptId := none
  skipped : Option Refusal := none
  queue : Option Transition := none
  allowance : Option Allowance.Change := none
  /-- How many grades were carried onto a resit. -/
  carried : Nat := 0
  handovers : List Handover := []
  deriving DecidableEq, Repr, Inhabited

/-- Following up the event wrote to the store, or tried to: a review or an allowance changed, a
grade was carried, or a delivery failed. -/
def Report.writes (r : Report) : Bool :=
  r.queue.any (· != .unchanged) || r.allowance.any Allowance.Change.raises || 0 < r.carried
    || r.handovers.any fun h => h.arrival != .delivered

/-- A value under a name, as the only member of an object. -/
def Json.tagged (name : String) (members : List (String × Json)) : Json :=
  .object [(name, .object members)]

/-- An ordinal as a value. -/
def Json.ordinal (n : Ordinal) : Json := .int n.toInt

/-- A refusal as a report has it. -/
def Refusal.toJson : Refusal → Json
  | .incompleteEvent missing =>
    .tagged "IncompleteEvent" [("missing", .array (missing.map .string))]
  | .unsupportedEvent name => .object [("UnsupportedEvent", .string name)]
  | .entityNotFound entity id =>
    .tagged "EntityNotFound" [("entity", .string entity.label), ("id", .int id)]
  | .previewAttempt => .string "PreviewAttempt"
  | .attemptInProgress => .string "AttemptInProgress"
  | .notYetGraded => .string "NotYetGraded"
  | .suspendedLearner => .string "SuspendedLearner"
  | .subjectMismatch subject owner =>
    .tagged "SubjectMismatch" [("subject", .int subject), ("owner", .int owner)]
  | .missingExternalId entity id =>
    .tagged "MissingExternalId" [("entity", .string entity.label), ("id", .int id)]
  | .priorLearningCredit => .string "PriorLearningCredit"
  | .deferredFeedbackActivity => .string "DeferredFeedbackActivity"
  | .noFinishedAttempt => .string "NoFinishedAttempt"

/-- A transition as a report has it. -/
def Transition.toJson : Transition → Json
  | .start assignee prior =>
    .tagged "Open" [("assignee", Json.optional .int assignee),
      ("prior_attempt_id", Json.optional .int prior)]
  | .finish assignee => .tagged "Finish" [("assignee", .int assignee)]
  | .relink prior => .tagged "ReconcilePrior" [("prior_attempt_id", .int prior)]
  | .unchanged => .string "Unchanged"

/-- The change of an allowance as a report has it. -/
def Allowance.Change.toJson : Allowance.Change → Json
  | .created permitted => .tagged "Created" [("permitted", .ordinal permitted)]
  | .raised was now => .tagged "Raised" [("from", .ordinal was), ("to", .ordinal now)]
  | .unchanged permitted => .tagged "Unchanged" [("permitted", .ordinal permitted)]

/-- How a delivery went, as a report has it. -/
def Arrival.toJson : Arrival → Json
  | .delivered => .string "Delivered"
  | .failed error recording =>
    .tagged "Failed" [("error", .string error), ("outbox", .string recording.label)]

/-- A delivery as a report has it. -/
def Handover.toJson (h : Handover) : Json :=
  .object [("delivery_type", .string h.resource.tag), ("outcome", h.arrival.toJson)]

/-- A report as the value that is printed. -/
def Report.toJson (r : Report) : Json :=
  .object [
    ("kind", Json.optional (fun k => .string k.label) r.kind),
    ("attempt_id", Json.optional .int r.attemptId),
    ("skipped", Json.optional Refusal.toJson r.skipped),
    ("queue", Json.optional Transition.toJson r.queue),
    ("allowance", Json.optional Allowance.Change.toJson r.allowance),
    ("carried", .int r.carried),
    ("deliveries", .array (r.handovers.map Handover.toJson))]

end GradeRelay

import GradeRelay.Identifier
import GradeRelay.Json.Basic
import GradeRelay.Refusal
/-!
# Events

The platform announces what happened as a flat JSON object. `Event.ofJson` takes out the keys
that every event must have and refuses anything incomplete, naming every key at fault once: first
the absent ones, then those that hold no identifier, last the key of the graded attempt.
-/

namespace GradeRelay

/-- What an event is about. -/
inductive Event.Kind where
  /-- A grader marked one question. -/
  | questionGraded
  /-- An attempt was submitted, changed or graded anew. -/
  | attemptUpdated
  /-- A learner's completion of an activity changed. -/
  | completionUpdated
  deriving DecidableEq, Repr, Inhabited

namespace Event.Kind

/-- What follows the last backslash or slash of a name. -/
def shortName (name : String) : String :=
  String.ofList ((name.toList.reverse.takeWhile fun c => c != '\\' && c != '/').reverse)

/-- The kind of event that a name announces; what stands before the last separator is free. -/
def ofName? (name : String) : Option Event.Kind :=
  let s := shortName name
  if s = "question_manually_graded" then some .questionGraded
  else if s = "attempt_submitted" || s = "attempt_updated" || s = "attempt_regraded" then
    some .attemptUpdated
  else if s = "course_module_completion_updated" then some .completionUpdated
  else none

/-- The name of a kind in reports. -/
def label : Event.Kind → String
  | .questionGraded => "QuestionManuallyGraded"
  | .attemptUpdated => "AttemptUpdated"
  | .completionUpdated => "CompletionUpdated"

end Event.Kind

/-- The row that an event points at. -/
inductive Event.Target where
  | attempt (id : AttemptId)
  | completion (id : CompletionId)
  deriving DecidableEq, Repr, Inhabited

/-- An event with everything in it that is needed to follow it up. -/
structure Event where
  kind : Event.Kind
  /-- Who caused the event, if the platform says so. -/
  actor : Option UserId
  /-- The learner that the event is about. -/
  subject : UserId
  courseId : CourseId
  target : Event.Target
  occurredAt : Timestamp
  deriving DecidableEq, Repr, Inhabited

namespace Event

/-- The attempt that an event points at. -/
def namedAttempt? (e : Event) : Option AttemptId :=
  match e.target with
  | .attempt id => some id
  | .completion _ => none

/-- The identifier that a value holds: an integer in range, or the text of one. -/
def identifier? : Json → Option Int
  | .number (.int n) => if Identifier.inRange n then some n else none
  | .string s => Identifier.ofPaddedText? s
  | _ => none

/-- The identifier that an event holds under a key. -/
def idAt (raw : Json) (key : String) : Option Int := (raw.get? key).bind identifier?

/-- The attempt named among an event's other data. -/
def otherAttempt (raw : Json) : Option Int :=
  (raw.get? "other").bind fun o => idAt o "attemptid"

/-- The keys that must be there. -/
def neededKeys : List String :=
  ["relateduserid", "courseid", "objectid", "contextid", "timecreated"]

/-- The keys that must hold an identifier. -/
def idKeys : List String := ["relateduserid", "courseid", "objectid", "contextid"]

/-- The name that an event announces itself by; empty when it has none. -/
def nameOf (raw : Json) : String := ((raw.get? "eventname").bind Json.text?).getD ""

/-- The keys at fault: the absent ones, those that hold no identifier, and the key of the graded
attempt where one is needed. -/
def missingKeys (kind : Event.Kind) (raw : Json) : List String :=
  let absent := neededKeys.filter fun k => !Json.isGiven (raw.get? k)
  let unreadable := idKeys.filter fun k => (idAt raw k).isNone && !absent.contains k
  let other :=
    if kind = .questionGraded && (otherAttempt raw).isNone then ["other.attemptid"] else []
  absent ++ unreadable ++ other

/-- The row that an event of a kind points at. -/
def targetOf? (kind : Event.Kind) (raw : Json) : Option Event.Target :=
  match kind with
  | .questionGraded => (otherAttempt raw).map .attempt
  | .attemptUpdated => (idAt raw "objectid").map .attempt
  | .completionUpdated => (idAt raw "objectid").map .completion

/-- When the event took place: the time it gives, if that is positive, else the time now. -/
def timeOf (raw : Json) (now : Timestamp) : Timestamp :=
  ((idAt raw "timecreated").filter fun t => 0 < t).getD now

/-- The event that a raw value describes, or why it cannot be followed up. -/
def ofJson (raw : Json) (now : Timestamp) : Except Refusal Event :=
  match Event.Kind.ofName? (nameOf raw) with
  | none => .error (.unsupportedEvent (nameOf raw))
  | some kind =>
    match missingKeys kind raw, idAt raw "relateduserid", idAt raw "courseid",
      targetOf? kind raw with
    | [], some subject, some courseId, some target =>
      .ok { kind, actor := idAt raw "userid", subject, courseId, target,
            occurredAt := timeOf raw now }
    | missing, _, _, _ => .error (.incompleteEvent missing)

end Event

end GradeRelay

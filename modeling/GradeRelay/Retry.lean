import GradeRelay.Identifier
import GradeRelay.Service
import GradeRelay.Text.Quoted
/-!
# Retries

A delivery that failed leaves a retry in the outbox, from which it can be repeated without reading
the source rows again. Of the retries still pending no two have one key.
-/

namespace GradeRelay

/-- Whether a delivery still waits to be repeated. -/
inductive Retry.Status where
  | pending
  | sent
  deriving DecidableEq, Repr, Inhabited

namespace Retry.Status

/-- The code of a status in its row. -/
def code : Status → Int
  | .pending => 0
  | .sent => 1

/-- Every code but zero is read as sent. -/
def ofCode (n : Int) : Status := if n = 0 then .pending else .sent

@[simp]
theorem ofCode_code (s : Status) : ofCode s.code = s := by cases s <;> rfl

end Retry.Status

/-- What makes two failed deliveries the same one. -/
structure Retry.Key where
  learnerId : UserId
  courseId : CourseId
  assessmentName : String
  attemptId : AttemptId
  resource : Resource
  deriving DecidableEq, Repr, Inhabited

/-- The text of a key, the assessment's name quoted. -/
def Retry.Key.label (k : Retry.Key) : String :=
  "(" ++ toString k.learnerId ++ ", " ++ toString k.courseId ++ ", "
    ++ Text.quote k.assessmentName ++ ", " ++ toString k.attemptId ++ ", "
    ++ k.resource.tag ++ ")"

/-- A failed delivery, waiting to be repeated. -/
structure Retry where
  /-- The row's number, once stored. -/
  id : Option Int
  learnerId : UserId
  learnerExternalId : String
  courseId : CourseId
  courseExternalId : String
  assessmentName : String
  timeComplete : Timestamp
  attemptId : AttemptId
  status : Retry.Status
  timeAdded : Timestamp
  resource : Resource
  deriving DecidableEq, Repr, Inhabited

/-- The key that a retry stands under. -/
def Retry.key (r : Retry) : Retry.Key :=
  ⟨r.learnerId, r.courseId, r.assessmentName, r.attemptId, r.resource⟩

/-- What became of a failed delivery. -/
inductive Recording where
  | recorded
  /-- A pending retry with the same key was there already. -/
  | duplicateSuppressed
  deriving DecidableEq, Repr, Inhabited

/-- The name of a recording in reports. -/
def Recording.label : Recording → String
  | .recorded => "Recorded"
  | .duplicateSuppressed => "DuplicateSuppressed"

end GradeRelay

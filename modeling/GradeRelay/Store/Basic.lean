import GradeRelay.Allowance
import GradeRelay.Assessment
import GradeRelay.Fault
import GradeRelay.Person
import GradeRelay.Retry
import GradeRelay.Review
import GradeRelay.Sitting
/-!
# The store

The tables behind the bridge, each a list of rows in the order of insertion. Source rows are the
platform's; the queue, the allowances, the carried steps and the outbox are written here.

Where other programs may have written a value that has no meaning here, the row keeps that value
and reading the row fails: an attempt's number (`AttemptRow`), a review's state (`ReviewRow`), a
retry's resource (`RetryRow`).

* `AttemptRow.read_ofAttempt`, `ReviewRow.read_ofReview`, `RetryRow.read_ofRetry`: what is written
  here reads back;
* `lt_freshId`: a new number is above all in use.
-/

namespace GradeRelay

/-- A stored attempt, whose number may lie outside the ordinals. -/
structure AttemptRow where
  id : AttemptId
  assessmentId : AssessmentId
  learnerId : UserId
  number : Int
  usageId : Int
  state : Attempt.State
  score : Option Float
  preview : Bool
  timeStart : Timestamp
  timeFinish : Timestamp
  timeModified : Timestamp
  deriving Repr, Inhabited

namespace AttemptRow

/-- The row of an attempt; the store has no score that is not a number. -/
def ofAttempt (a : Attempt) : AttemptRow where
  id := a.id
  assessmentId := a.assessmentId
  learnerId := a.learnerId
  number := a.number.toInt
  usageId := a.usageId
  state := a.state
  score := a.score.bind Score.stored
  preview := a.preview
  timeStart := a.timeStart
  timeFinish := a.timeFinish
  timeModified := a.timeModified

/-- The attempt in a row, if the number is an ordinal. -/
def read (r : AttemptRow) : Except StoreFault Attempt :=
  match Ordinal.ofInt? r.number with
  | none => .error (.attemptNumber r.number)
  | some number =>
    .ok { id := r.id, assessmentId := r.assessmentId, learnerId := r.learnerId, number,
          usageId := r.usageId, state := r.state, score := r.score, preview := r.preview,
          timeStart := r.timeStart, timeFinish := r.timeFinish, timeModified := r.timeModified }

/-- The first row is no later in time of finish, then in number of row. -/
def finishLe (a b : AttemptRow) : Bool :=
  a.timeFinish < b.timeFinish || (a.timeFinish = b.timeFinish && a.id ≤ b.id)

/-- The first row is no later in number of attempt, then in time of finish and number of row. -/
def numberLe (a b : AttemptRow) : Bool :=
  a.number < b.number || (a.number = b.number && a.finishLe b)

@[simp]
theorem read_ofAttempt (a : Attempt) :
    (ofAttempt a).read = .ok { a with score := a.score.bind Score.stored } := by
  simp [read, ofAttempt]

end AttemptRow

/-- A stored review, whose state may have no meaning. -/
structure ReviewRow where
  attemptId : AttemptId
  priorAttemptId : Option AttemptId
  assignee : Option UserId
  attemptNumber : Ordinal
  state : Int
  timeStart : Timestamp
  timeFinish : Option Timestamp
  deriving DecidableEq, Repr, Inhabited

namespace ReviewRow

/-- The row of a review. -/
def ofReview (r : Review) : ReviewRow where
  attemptId := r.attemptId
  priorAttemptId := r.priorAttemptId
  assignee := r.assignee
  attemptNumber := r.attemptNumber
  state := r.state.code
  timeStart := r.timeStart
  timeFinish := r.timeFinish

/-- The review in a row, if its state has a meaning. -/
def read (r : ReviewRow) : Except StoreFault Review :=
  match Review.State.ofCode? r.state with
  | none => .error (.reviewState r.state)
  | some state =>
    .ok { attemptId := r.attemptId, priorAttemptId := r.priorAttemptId, assignee := r.assignee,
          attemptNumber := r.attemptNumber, state, timeStart := r.timeStart,
          timeFinish := r.timeFinish }

/-- The row is the review of an attempt, still pending. -/
def isPendingFor (r : ReviewRow) (attemptId : AttemptId) : Bool :=
  r.attemptId = attemptId && r.state = Review.State.pending.code

@[simp]
theorem priorAttemptId_ofReview (r : Review) :
    (ofReview r).priorAttemptId = r.priorAttemptId := rfl

@[simp]
theorem read_ofReview (r : Review) : (ofReview r).read = .ok r := by
  simp [ofReview, read]

end ReviewRow

/-- A note and the step that it is on. -/
structure NoteRow where
  stepId : StepId
  note : Note
  deriving DecidableEq, Repr, Inhabited

/-- A role that a user holds. -/
structure RoleRow where
  userId : UserId
  roleId : Int
  deriving DecidableEq, Repr, Inhabited

/-- A note on credit that a learner brings along for an assessment of a course. -/
structure CreditRow where
  courseId : CourseId
  assessmentId : AssessmentId
  learnerId : UserId
  note : String
  deriving DecidableEq, Repr, Inhabited

/-- A stored retry, whose resource may have no meaning. -/
structure RetryRow where
  id : Int
  learnerId : UserId
  learnerExternalId : String
  courseId : CourseId
  courseExternalId : String
  assessmentName : String
  timeComplete : Timestamp
  attemptId : AttemptId
  status : Retry.Status
  timeAdded : Timestamp
  resourceTag : String
  deriving DecidableEq, Repr, Inhabited

namespace RetryRow

/-- The row of a retry under a number. -/
def ofRetry (id : Int) (r : Retry) : RetryRow where
  id := id
  learnerId := r.learnerId
  learnerExternalId := r.learnerExternalId
  courseId := r.courseId
  courseExternalId := r.courseExternalId
  assessmentName := r.assessmentName
  timeComplete := r.timeComplete
  attemptId := r.attemptId
  status := r.status
  timeAdded := r.timeAdded
  resourceTag := r.resource.tag

/-- The retry in a row, if its resource has a meaning. -/
def read (r : RetryRow) : Except StoreFault Retry :=
  match Resource.ofTag? r.resourceTag with
  | none => .error (.resource r.resourceTag)
  | some resource =>
    .ok { id := some r.id, learnerId := r.learnerId, learnerExternalId := r.learnerExternalId,
          courseId := r.courseId, courseExternalId := r.courseExternalId,
          assessmentName := r.assessmentName, timeComplete := r.timeComplete,
          attemptId := r.attemptId, status := r.status, timeAdded := r.timeAdded, resource }

/-- The two rows stand for one failed delivery. -/
def sameKey (a b : RetryRow) : Bool :=
  a.learnerId = b.learnerId && a.courseId = b.courseId && a.assessmentName = b.assessmentName
    && a.attemptId = b.attemptId && a.resourceTag = b.resourceTag

/-- The retry of the row is still to be made. -/
def isPending (r : RetryRow) : Bool := r.status = .pending

@[simp]
theorem read_ofRetry (id : Int) (r : Retry) :
    (ofRetry id r).read = .ok { r with id := some id } := by
  simp [ofRetry, read]

end RetryRow

/-- The tables, each in the order of insertion. -/
structure Store where
  users : List User := []
  courses : List Course := []
  assessments : List Assessment := []
  attempts : List AttemptRow := []
  questions : List Question := []
  steps : List Step := []
  notes : List NoteRow := []
  roles : List RoleRow := []
  completions : List Completion := []
  credits : List CreditRow := []
  queue : List ReviewRow := []
  allowances : List Allowance := []
  outbox : List RetryRow := []
  deriving Repr, Inhabited

/-- The number for a new row: one more than the greatest in use, or one. -/
def freshId : List Int → Int
  | [] => 1
  | n :: rest => rest.foldl max n + 1

theorem lt_freshId {l : List Int} {m : Int} (h : m ∈ l) : m < freshId l := by
  cases l with
  | nil => cases h
  | cons n rest =>
    have hmax : (n :: rest).max? = some (rest.foldl max n) := List.max?_cons'
    exact Int.lt_add_one_of_le ((List.max?_eq_some_iff.1 hmax).2 m h)

end GradeRelay

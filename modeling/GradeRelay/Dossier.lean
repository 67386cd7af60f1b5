import GradeRelay.Assessment
import GradeRelay.Notice
import GradeRelay.Refusal
import GradeRelay.Retry
/-!
# Dossiers

A `Dossier` gathers the rows that belong to one attempt. From it the notices for the records
service are written, and the retry that a failed delivery leaves. Nothing is told about a suspended
learner.

* `Dossier.resource_notice`: the notice for a resource goes there.
-/

namespace GradeRelay

/-- The rows that belong to one attempt. -/
structure Dossier where
  attempt : Attempt
  assessment : Assessment
  learner : User
  course : Course
  deriving Repr, Inhabited

namespace Dossier

variable (d : Dossier)

/-- Why nothing may be told about this learner. -/
def refusal? : Option Refusal :=
  if d.learner.suspended then some .suspendedLearner else none

/-- The name under which the activity is known outside. -/
def activityName : String := Assessment.publicName d.assessment.name

/-- The attempt's score counts as the maximum. -/
def isPassed : Bool := d.attempt.score.any d.assessment.isFull

/-- How the attempt stands. -/
def attemptNotice : AttemptNotice where
  id := d.attempt.id
  person :=
    { externalId := d.learner.externalId, username := d.learner.username,
      firstName := d.learner.firstName, lastName := d.learner.lastName, email := d.learner.email }
  course := d.course
  quiz :=
    { id := d.assessment.id, name := d.activityName, maxScore := d.assessment.maxScore,
      courseId := d.assessment.courseId }
  number := d.attempt.number
  state := d.attempt.state
  timeStart := d.attempt.timeStart
  timeFinish := d.attempt.timeFinish
  timeModified := d.attempt.timeModified
  score := d.attempt.score

/-- That the activity was passed, exactly when the score counts as the maximum, or failed. -/
def activityNotice (completedAt : Timestamp) (assessor : Option String) : ActivityNotice where
  personExternalId := d.learner.externalId
  personUsername := d.learner.username
  personEmail := d.learner.email
  courseExternalId := d.course.externalId
  courseCode := d.course.shortName
  activityName := d.activityName
  modified := completedAt
  complete := d.isPassed
  completeDate := if d.isPassed then some completedAt else none
  verdict := if d.isPassed then .passed else .failed
  assessor := assessor

/-- The notice for a resource. -/
def notice (completedAt : Timestamp) (assessor : Option String) : Resource → Notice
  | .attempts => .attempt d.attemptNotice
  | .activities => .activity (d.activityNotice completedAt assessor)

@[simp]
theorem resource_notice (completedAt : Timestamp) (assessor : Option String) (r : Resource) :
    (d.notice completedAt assessor r).resource = r := by
  cases r <;> rfl

/-- What a failed delivery leaves. -/
def retry (now : Timestamp) (resource : Resource) : Retry where
  id := none
  learnerId := d.learner.id
  learnerExternalId := d.learner.externalId
  courseId := d.course.id
  courseExternalId := d.course.externalId
  assessmentName := d.activityName
  timeComplete := d.attempt.timeModified
  attemptId := d.attempt.id
  status := .pending
  timeAdded := now
  resource := resource

end Dossier

end GradeRelay

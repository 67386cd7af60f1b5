import GradeRelay.Identifier
import GradeRelay.Ordinal
/-!
# Attempts and completions

An attempt is one sitting of a learner at an assessment; sittings are numbered from one, and a
sitting after the first is a resit. A completion row says how far a learner is with an
assessment.
-/

namespace GradeRelay

/-- Whether the learner is still answering. -/
inductive Attempt.State where
  | inProgress
  | finished
  deriving DecidableEq, Repr, Inhabited

/-- The tag under which the platform stores a state. -/
def Attempt.State.tag : Attempt.State → String
  | .inProgress => "inprogress"
  | .finished => "finished"

/-- Every tag but that of a finished attempt is read as in progress. -/
def Attempt.State.ofTag (tag : String) : Attempt.State :=
  if tag = "finished" then .finished else .inProgress

/-- One sitting of a learner at an assessment. -/
structure Attempt where
  id : AttemptId
  assessmentId : AssessmentId
  learnerId : UserId
  /-- Which sitting of the learner this is. -/
  number : Ordinal
  /-- Ties the attempt to the questions attempted in it. -/
  usageId : Int
  state : Attempt.State
  score : Option Float
  preview : Bool
  timeStart : Timestamp
  timeFinish : Timestamp
  timeModified : Timestamp
  deriving Repr, Inhabited

/-- A sitting after the first. -/
def Attempt.isRepeat (a : Attempt) : Bool := 1 < a.number

/-- How far a learner is with an assessment. -/
structure Completion where
  id : CompletionId
  assessmentId : AssessmentId
  learnerId : UserId
  state : Int
  timeModified : Timestamp
  deriving DecidableEq, Repr, Inhabited

/-- The state of a completion that counts as full credit. -/
def Completion.full : Int := 1

end GradeRelay

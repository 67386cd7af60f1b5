import GradeRelay.Identifier
import GradeRelay.Score
import GradeRelay.Text.Occurs
/-!
# Assessments

An assessment has a maximal score and a way of giving feedback. Copies of the written assessment
that differ in what surrounds its title count as one activity: `publicName` gives all of them
one name.
-/

namespace GradeRelay

/-- When a learner gets to see the outcome. -/
inductive Behaviour where
  | deferredFeedback
  | other
  deriving DecidableEq, Repr, Inhabited

/-- The tag under which the platform stores a behaviour. -/
def Behaviour.tag : Behaviour → String
  | .deferredFeedback => "deferredfeedback"
  | .other => "other"

/-- Every tag but that of deferred feedback is another behaviour. -/
def Behaviour.ofTag (tag : String) : Behaviour :=
  if tag = "deferredfeedback" then .deferredFeedback else .other

/-- An assessment of a course. -/
structure Assessment where
  id : AssessmentId
  courseId : CourseId
  name : String
  maxScore : Float
  behaviour : Behaviour
  deriving Repr, Inhabited

namespace Assessment

/-- Grading by hand decides about the outcome. -/
def isDeferred (a : Assessment) : Bool := a.behaviour = .deferredFeedback

/-- The score counts as the maximum. -/
def isFull (a : Assessment) (score : Float) : Bool := Score.close score a.maxScore

/-- The two spellings of the written assessment's title, the one that goes first in front. -/
def writtenTitles : List String := ["Written assessment", "Written Assessment"]

/-- The one name of all copies of an assessment: the first title of the written assessment that
occurs in the name, else the name itself. -/
def publicName (name : String) : String :=
  (writtenTitles.find? fun t => Text.occursIn t.toList name.toList).getD name

end Assessment

end GradeRelay

import GradeRelay.Attempt
import GradeRelay.Latest
/-!
# Sittings

An attempt with the questions attempted in it, the steps taken on each and what was noted on a
step. A step whose state has a tag that is not known keeps the tag and equals no known state.

* `StepState.tag_ofTag`: no tag is lost by reading it.
-/

namespace GradeRelay

/-- What a step made of a question. -/
inductive StepState where
  | needsGrading
  | accepted
  | rejected
  | unknown (tag : String)
  deriving DecidableEq, Repr, Inhabited

namespace StepState

/-- The tag under which the platform stores a state. -/
def tag : StepState → String
  | .needsGrading => "needsgrading"
  | .accepted => "mangrright"
  | .rejected => "mangrwrong"
  | .unknown t => t

/-- The state that a tag stands for. -/
def ofTag (t : String) : StepState :=
  if t = "needsgrading" then .needsGrading
  else if t = "mangrright" then .accepted
  else if t = "mangrwrong" then .rejected
  else .unknown t

/-- A grader has decided. -/
def isDecision : StepState → Bool
  | .accepted => true
  | .rejected => true
  | _ => false

@[simp]
theorem tag_ofTag (t : String) : (ofTag t).tag = t := by
  unfold ofTag
  split
  · next h => exact h.symm
  · split
    · next h => exact h.symm
    · split
      · next h => exact h.symm
      · rfl

end StepState

/-- A question as attempted within one sitting. -/
structure Question where
  id : QuestionAttemptId
  usageId : Int
  questionId : Int
  slot : Ordinal
  behaviour : String
  deriving DecidableEq, Repr, Inhabited

/-- The question waits for a grader. -/
def Question.isManual (q : Question) : Bool := q.behaviour = "manualgraded"

/-- One step taken on a question. -/
structure Step where
  id : StepId
  questionAttemptId : QuestionAttemptId
  sequence : Ordinal
  state : StepState
  fraction : Option Float
  timeCreated : Timestamp
  userId : UserId
  deriving Repr, Inhabited

/-- A named note on a step. -/
structure Note where
  name : String
  value : String
  deriving DecidableEq, Repr, Inhabited

namespace Note

/-- The remark of a grader. -/
def comment : String := "-comment"

/-- How the remark is marked up. -/
def commentFormat : String := "-commentformat"

/-- The mark that was given. -/
def mark : String := "-mark"

/-- The mark that could be given. -/
def maxMark : String := "-maxmark"

end Note

/-- A step with its notes. -/
structure NotedStep where
  step : Step
  notes : List Note
  deriving Repr, Inhabited

/-- The last note of the given name. -/
def NotedStep.note? (s : NotedStep) (name : String) : Option Note :=
  s.notes.reverse.find? fun a => a.name = name

/-- The first step is no later in sequence. -/
def NotedStep.sequenceLe (a b : NotedStep) : Bool := a.step.sequence ≤ b.step.sequence

/-- The first step is no later in creation time, then in sequence. -/
def NotedStep.createdLe (a b : NotedStep) : Bool :=
  a.step.timeCreated < b.step.timeCreated
    || (a.step.timeCreated = b.step.timeCreated && a.sequenceLe b)

/-- A question with its steps. -/
@[ext] structure QuestionHistory where
  question : Question
  steps : List NotedStep
  deriving Repr, Inhabited

namespace QuestionHistory

/-- Some step is in the state. -/
def reached (q : QuestionHistory) (state : StepState) : Bool :=
  q.steps.any fun s => s.step.state = state

/-- Some step is a grader's decision. -/
def hasDecision (q : QuestionHistory) : Bool := q.steps.any fun s => s.step.state.isDecision

/-- The step with the highest sequence number. -/
def lastStep? (q : QuestionHistory) : Option NotedStep :=
  latest? NotedStep.sequenceLe q.steps

/-- The most recent step in the state. -/
def lastStepIn? (q : QuestionHistory) (state : StepState) : Option NotedStep :=
  latest? NotedStep.createdLe (q.steps.filter fun s => s.step.state = state)

end QuestionHistory

/-- An attempt with its questions. -/
structure Sitting where
  attempt : Attempt
  questions : List QuestionHistory
  deriving Repr, Inhabited

namespace Sitting

/-- The first question that a grader has decided about. -/
def firstDecided? (t : Sitting) : Option QuestionHistory :=
  t.questions.find? QuestionHistory.hasDecision

/-- What was done first about the given question. -/
def history? (t : Sitting) (questionId : Int) : Option QuestionHistory :=
  t.questions.find? fun q => q.question.questionId = questionId

end Sitting

/-- An accepted grade to be written onto a question of a resit. -/
structure CarriedStep where
  questionAttemptId : QuestionAttemptId
  questionId : Int
  sequence : Ordinal
  state : StepState
  fraction : Float
  timeCreated : Timestamp
  userId : UserId
  notes : List Note
  deriving Repr, Inhabited

end GradeRelay

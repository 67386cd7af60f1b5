import GradeRelay.Sitting
/-!
# Taking over grades onto a resit

An answer that a grader accepted on the sitting before counts as accepted on the resit too, once
its question waits for grading there. `Takeover.plan` says which steps that takes; it fails only
when a step would have no sequence number left.
-/

namespace GradeRelay.Takeover

/-- What stands for a note that the accepted step does not carry. -/
def defaultValue : String := "1"

/-- The notes of a carried step: none without a remark, else the remark and its companions. -/
def notes (accepted : NotedStep) : List Note :=
  match accepted.note? Note.comment with
  | none => []
  | some comment =>
    comment :: [Note.commentFormat, Note.mark, Note.maxMark].map fun name =>
      ⟨name, ((accepted.note? name).map (·.value)).getD defaultValue⟩

/-- An accepted step, the question it is carried to, and the step there that waits. -/
structure Link where
  accepted : NotedStep
  current : QuestionHistory
  awaiting : NotedStep
  deriving Repr, Inhabited

/-- The link of a question of the sitting before, if it is graded by hand and accepted, and if the
resit's first attempt at it is not accepted yet and has a latest step that waits for grading. -/
def link? (successor : Sitting) (prior : QuestionHistory) : Option Link :=
  if prior.question.isManual then
    (prior.lastStepIn? .accepted).bind fun accepted =>
      (successor.history? prior.question.questionId).bind fun current =>
        if current.reached .accepted then none
        else
          (current.lastStep?.filter fun s => s.step.state = .needsGrading).map fun awaiting =>
            ⟨accepted, current, awaiting⟩
  else none

/-- The step that a link asks for, unless no sequence number is left. -/
def step? (successor : Sitting) (now : Timestamp) (l : Link) : Option CarriedStep :=
  l.awaiting.step.sequence.next?.map fun sequence =>
    { questionAttemptId := l.current.question.id
      questionId := l.current.question.questionId
      sequence
      state := .accepted
      fraction := 1.0
      timeCreated := now
      userId := successor.attempt.learnerId
      notes := notes l.accepted }

/-- The steps to be written onto the resit, in the order of the questions of the sitting before;
none at all if one of them has no sequence number left. -/
def plan (predecessor successor : Sitting) (now : Timestamp) : Option (List CarriedStep) :=
  (predecessor.questions.filterMap (link? successor)).mapM (step? successor now)

end GradeRelay.Takeover

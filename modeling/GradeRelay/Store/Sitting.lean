import GradeRelay.Store.Basic
/-!
# Stored sittings

Questions, steps and notes, the sitting that they make of an attempt, and the writing of
carried steps. A step that would repeat a state on its question is left out.
-/

namespace GradeRelay

/-- The first question is no later in slot, then in number of row. -/
def Question.slotLe (a b : Question) : Bool :=
  a.slot < b.slot || (a.slot = b.slot && a.id ≤ b.id)

/-- The first step is no later in sequence, then in number of row. -/
def Step.sequenceLe (a b : Step) : Bool :=
  a.sequence < b.sequence || (a.sequence = b.sequence && a.id ≤ b.id)

/-- A step as the store gives it back. -/
def Step.stored (st : Step) : Step :=
  { st with state := .ofTag st.state.tag, fraction := st.fraction.bind Score.stored }

namespace Store

variable (s : Store)

/-- Adds a question under a number of its own. -/
def addQuestion (q : Question) : Except StoreFault Store :=
  if s.questions.any fun p => p.id = q.id then .error (.repeatedId .questions)
  else .ok { s with questions := s.questions ++ [q] }

/-- Adds a step under a number of its own, as the store gives it back. -/
def addStep (st : Step) : Except StoreFault Store :=
  if s.steps.any fun t => t.id = st.id then .error (.repeatedId .steps)
  else .ok { s with steps := s.steps ++ [st.stored] }

/-- Adds a note to a step. -/
def addNote (stepId : StepId) (note : Note) : Store :=
  { s with notes := s.notes ++ [⟨stepId, note⟩] }

/-- The notes on a step, in the order in which they were added. -/
def notesOf (id : StepId) : List Note :=
  (s.notes.filter fun r => r.stepId = id).map (·.note)

/-- The steps on a question, by sequence and number of row, as the store gives them back, with
their notes. -/
def stepsOf (id : QuestionAttemptId) : List NotedStep :=
  ((s.steps.filter fun st => st.questionAttemptId = id).mergeSort Step.sequenceLe).map fun st =>
    ⟨st.stored, s.notesOf st.id⟩

/-- The sitting of an attempt: its questions by slot and number of row, with their steps. -/
def sitting (a : Attempt) : Sitting where
  attempt := a
  questions :=
    ((s.questions.filter fun q => q.usageId = a.usageId).mergeSort Question.slotLe).map fun q =>
      ⟨q, s.stepsOf q.id⟩

/-- Some step on the question is in a state with the same tag. -/
def hasStepIn (id : QuestionAttemptId) (state : StepState) : Bool :=
  s.steps.any fun st => st.questionAttemptId = id && st.state.tag = state.tag

/-- Writes one carried step with its notes under a new number. -/
def addCarriedStep (c : CarriedStep) : Store :=
  let id := freshId (s.steps.map (·.id))
  let st : Step :=
    { id, questionAttemptId := c.questionAttemptId, sequence := c.sequence, state := c.state,
      fraction := some c.fraction, timeCreated := c.timeCreated, userId := c.userId }
  { s with
    steps := s.steps ++ [st.stored]
    notes := s.notes ++ c.notes.map fun a => ⟨id, a⟩ }

/-- Writes carried steps one after the other, leaving out each that would repeat a state on its
question, and counts those written. -/
def addCarriedSteps (s : Store) : List CarriedStep → Nat × Store
  | [] => (0, s)
  | c :: rest =>
    if s.hasStepIn c.questionAttemptId c.state then s.addCarriedSteps rest
    else
      let (n, s) := (s.addCarriedStep c).addCarriedSteps rest
      (n + 1, s)

end Store

end GradeRelay

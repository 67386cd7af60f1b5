import GradeRelay.Store.Allowance
import GradeRelay.Sync.Tracking
import GradeRelay.Takeover
/-!
# Resits

A failed attempt with deferred feedback earns the learner one more sitting, and the sitting that
follows takes over the grades already accepted.
-/

namespace GradeRelay.Store

variable (s : Store)

/-- The attempt earns its learner another sitting: feedback is deferred, the score neither counts
as the maximum nor reaches it, and the learner has no full credit. -/
def earnsResit (assessment : Assessment) (a : Attempt) : Bool :=
  assessment.isDeferred &&
    match a.score with
    | none => false
    | some score =>
      !(assessment.isFull score || score ≥ assessment.maxScore)
        && !s.isCompleted assessment.id a.learnerId

/-- Permits the learner of an attempt that earns it the sitting after it. -/
def grantResit (assessment : Assessment) (a : Attempt) :
    Except Fault (Option Allowance.Change × Store) :=
  if s.earnsResit assessment a then
    match a.number.next? with
    | none => .error .overflow
    | some n =>
      let (change, s) := s.raiseAllowance assessment.id a.learnerId n
      .ok (some change, s)
  else .ok (none, s)

/-- Carries accepted grades from the attempt one number below onto a resit with deferred
feedback, and counts the steps written. -/
def takeOver (o : Occasion) (assessment : Assessment) (a : Attempt) :
    Except Fault (Nat × Store) :=
  if a.isRepeat && assessment.isDeferred then
    match s.attemptNumbered? a.assessmentId a.learnerId (a.number - 1) false with
    | .error f => .error (.store f)
    | .ok none => .ok (0, s)
    | .ok (some predecessor) =>
      match Takeover.plan (s.sitting predecessor) (s.sitting a) o.now with
      | none => .error .overflow
      | some steps => .ok (s.addCarriedSteps steps)
  else .ok (0, s)

end GradeRelay.Store

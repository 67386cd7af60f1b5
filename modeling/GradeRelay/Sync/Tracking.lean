import GradeRelay.Store.Review
import GradeRelay.Store.Sitting
import GradeRelay.Store.Source
/-!
# Keeping the assessor queue

What is observed about an attempt, and how the transition that it calls for is written. A write
that finds its condition broken by then counts as no change.
-/

namespace GradeRelay

/-- Who acts, at what time, and which role marks a grader. -/
structure Occasion where
  actor : UserId
  now : Timestamp
  graderRole : Int
  deriving DecidableEq, Repr, Inhabited

namespace Store

variable (s : Store)

/-- The finished attempt one number below a resit. -/
def priorAttempt? (a : Attempt) : Except StoreFault (Option AttemptId) :=
  if a.isRepeat then
    (s.attemptNumbered? a.assessmentId a.learnerId (a.number - 1) true).map fun p => p.map (·.id)
  else .ok none

/-- What is to be seen of an attempt: who acts, whether an answer was decided, whether there is a
score, and which attempt came before. -/
def observation (o : Occasion) (a : Attempt) : Except StoreFault Observation := do
  let prior ← s.priorAttempt? a
  return {
    actor := o.actor
    byGrader := s.hasRole o.actor o.graderRole
    hasDecision := (s.sitting a).firstDecided?.isSome
    scored := a.score.isSome
    prior }

/-- Writes a transition, and tells whether it took place. -/
def applyTransition (now : Timestamp) (a : Attempt) : Transition → Bool × Store
  | .start assignee prior =>
    s.startReview
      { attemptId := a.id, priorAttemptId := prior, assignee, attemptNumber := a.number,
        state := .pending, timeStart := now, timeFinish := none }
  | .finish assignee => s.finishReview a.id assignee now
  | .relink prior => s.relinkReview a.id prior
  | .unchanged => (false, s)

/-- Brings the review of an attempt up to date, and tells how it changed. -/
def track (o : Occasion) (a : Attempt) : Except StoreFault (Transition × Store) := do
  let review ← s.review? a.id
  let obs ← s.observation o a
  let t := Transition.next review obs
  match s.applyTransition o.now a t with
  | (true, s) => return (t, s)
  | (false, s) => return (.unchanged, s)

end Store

end GradeRelay

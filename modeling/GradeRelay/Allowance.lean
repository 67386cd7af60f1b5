import GradeRelay.Identifier
import GradeRelay.Ordinal
/-!
# Attempt allowances

How many sittings a learner may take at an assessment. An allowance is only ever raised.
-/

namespace GradeRelay

/-- The number of sittings permitted to a learner at an assessment. -/
structure Allowance where
  assessmentId : AssessmentId
  learnerId : UserId
  permitted : Ordinal
  deriving DecidableEq, Repr, Inhabited

/-- What a request for an allowance did. -/
inductive Allowance.Change where
  | created (permitted : Ordinal)
  | raised (was now : Ordinal)
  | unchanged (permitted : Ordinal)
  deriving DecidableEq, Repr, Inhabited

namespace Allowance.Change

/-- What a request for at least so many sittings does to what was permitted before. -/
def request (current : Option Ordinal) (atLeast : Ordinal) : Change :=
  match current with
  | none => .created atLeast
  | some p => if p < atLeast then .raised p atLeast else .unchanged p

/-- The sittings permitted after a change. -/
def permitted : Change → Ordinal
  | .created p => p
  | .raised _ p => p
  | .unchanged p => p

/-- The change permits more than was permitted before. -/
def raises : Change → Bool
  | .unchanged _ => false
  | _ => true

end Allowance.Change

end GradeRelay

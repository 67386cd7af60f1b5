import GradeRelay.Store.Basic
/-!
# Stored allowances

One row for each learner and assessment; a request never lowers it.
-/

namespace GradeRelay

/-- The row belongs to a learner and an assessment. -/
def Allowance.isFor (a : Allowance) (assessmentId : AssessmentId) (learnerId : UserId) : Bool :=
  a.assessmentId = assessmentId && a.learnerId = learnerId

namespace Store

variable (s : Store)

/-- The allowance of a learner at an assessment. -/
def allowance? (assessmentId : AssessmentId) (learnerId : UserId) : Option Allowance :=
  s.allowances.find? (·.isFor assessmentId learnerId)

/-- Permits a learner at least so many sittings at an assessment. -/
def raiseAllowance (assessmentId : AssessmentId) (learnerId : UserId) (atLeast : Ordinal) :
    Allowance.Change × Store :=
  let change :=
    .request ((s.allowance? assessmentId learnerId).map (·.permitted)) atLeast
  (change, match change with
    | .created permitted =>
      { s with allowances := s.allowances ++ [{ assessmentId, learnerId, permitted }] }
    | .raised _ permitted =>
      { s with
        allowances := s.allowances.map fun a =>
          if a.isFor assessmentId learnerId then { a with permitted } else a }
    | .unchanged _ => s)

end Store

end GradeRelay

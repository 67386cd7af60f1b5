import GradeRelay.Attempt
/-!
# Reviews

The assessor queue holds at most one review for an attempt. A review is started, its link to the
prior attempt may be renewed while it is pending, and it is finished once; `Transition.next`
decides which of these an observation calls for.
-/

namespace GradeRelay

/-- Whether an attempt is still being graded. -/
inductive Review.State where
  | pending
  | finished
  deriving DecidableEq, Repr, Inhabited

namespace Review.State

/-- The code of a state in its row. -/
def code : State → Int
  | .pending => 0
  | .finished => 1

/-- The state that a code stands for. -/
def ofCode? (n : Int) : Option State :=
  if n = 0 then some .pending else if n = 1 then some .finished else none

/-- The name of a state in listings. -/
def label : State → String
  | .pending => "PENDING"
  | .finished => "FINISHED"

@[simp]
theorem ofCode?_code (s : State) : ofCode? s.code = some s := by cases s <;> rfl

end Review.State

/-- Who grades an attempt, and how far that is. -/
structure Review where
  attemptId : AttemptId
  priorAttemptId : Option AttemptId
  assignee : Option UserId
  /-- The attempt's number when the review was started. -/
  attemptNumber : Ordinal
  state : Review.State
  timeStart : Timestamp
  timeFinish : Option Timestamp
  deriving DecidableEq, Repr, Inhabited

/-- What is known about an attempt when its review is looked at. -/
structure Observation where
  actor : UserId
  byGrader : Bool
  /-- Some question carries a grader's decision. -/
  hasDecision : Bool
  /-- The attempt has a score. -/
  scored : Bool
  prior : Option AttemptId
  deriving DecidableEq, Repr, Inhabited

/-- A change of a review. -/
inductive Transition where
  | start (assignee : Option UserId) (prior : Option AttemptId)
  | finish (assignee : UserId)
  | relink (prior : AttemptId)
  | unchanged
  deriving DecidableEq, Repr, Inhabited

namespace Transition

/-- The change that an observation calls for. Without a review one is started as soon as a grader
has decided, assigned to the actor if that is a grader. A pending review of an attempt with a score
is finished; without a score it takes over a prior attempt that it does not have yet. A finished
review stays. -/
def next (review : Option Review) (obs : Observation) : Transition :=
  match review with
  | none =>
    if obs.hasDecision then
      .start (if obs.byGrader then some obs.actor else none) obs.prior
    else .unchanged
  | some r =>
    match r.state with
    | .finished => .unchanged
    | .pending =>
      if obs.scored then .finish obs.actor
      else
        match obs.prior with
        | some p => if r.priorAttemptId = some p then .unchanged else .relink p
        | none => .unchanged

end Transition

end GradeRelay

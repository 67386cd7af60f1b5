import GradeRelay.Store.Basic
/-!
# The stored queue

Each write is conditional and tells whether it took place: a review is started only where none
is, and finished or linked anew only while it is pending.
-/

namespace GradeRelay.Store

variable (s : Store)

/-- The review of an attempt. -/
def review? (attemptId : AttemptId) : Except StoreFault (Option Review) :=
  match s.queue.find? fun r => r.attemptId = attemptId with
  | none => .ok none
  | some r => r.read.map some

/-- All reviews in the order in which they were started. -/
def allReviews : Except StoreFault (List Review) := s.queue.mapM ReviewRow.read

/-- Starts a review unless the attempt has one. -/
def startReview (r : Review) : Bool × Store :=
  if s.queue.any fun q => q.attemptId = r.attemptId then (false, s)
  else (true, { s with queue := s.queue ++ [.ofReview r] })

/-- Finishes the review of an attempt while it is pending. -/
def finishReview (attemptId : AttemptId) (assignee : UserId) (timeFinish : Timestamp) :
    Bool × Store :=
  (s.queue.any (·.isPendingFor attemptId),
    { s with
      queue := s.queue.map fun r =>
        if r.isPendingFor attemptId then
          { r with assignee := some assignee, state := Review.State.finished.code,
                   timeFinish := some timeFinish }
        else r })

/-- Links the review of an attempt to a prior attempt while it is pending and has another link or
none. -/
def relinkReview (attemptId : AttemptId) (prior : AttemptId) : Bool × Store :=
  let isStale := fun r : ReviewRow => r.isPendingFor attemptId && r.priorAttemptId != some prior
  (s.queue.any isStale,
    { s with
      queue := s.queue.map fun r =>
        if isStale r then { r with priorAttemptId := some prior } else r })

end GradeRelay.Store

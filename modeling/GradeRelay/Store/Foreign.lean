import GradeRelay.Store.Basic
/-!
# Writes of other programs

Other programs share the tables and may write any value into a row. Each write gives the number
of rows that it found. A write that would leave two pending retries with one key is refused.
-/

namespace GradeRelay.Store

variable (s : Store)

/-- Changes the rows of a class and counts them. -/
def updateWhere {α : Type} (p : α → Bool) (f : α → α) (rows : List α) : Nat × List α :=
  (rows.countP p, rows.map fun r => if p r then f r else r)

/-- Writes any state into the row of an attempt. -/
def putAttemptState (id : AttemptId) (tag : String) : Nat × Store :=
  let (n, attempts) :=
    updateWhere (fun r => r.id = id) (fun r => { r with state := .ofTag tag }) s.attempts
  (n, { s with attempts })

/-- Writes any number into the row of an attempt. -/
def putAttemptNumber (id : AttemptId) (number : Int) : Nat × Store :=
  let (n, attempts) := updateWhere (fun r => r.id = id) (fun r => { r with number }) s.attempts
  (n, { s with attempts })

/-- Writes any behaviour into the row of an assessment. -/
def putBehaviour (id : AssessmentId) (tag : String) : Nat × Store :=
  let (n, assessments) :=
    updateWhere (fun a => a.id = id) (fun a => { a with behaviour := .ofTag tag }) s.assessments
  (n, { s with assessments })

/-- Writes any state into the row of a review. -/
def putReviewState (attemptId : AttemptId) (state : Int) : Nat × Store :=
  let (n, queue) :=
    updateWhere (fun r => r.attemptId = attemptId) (fun r => { r with state }) s.queue
  (n, { s with queue })

/-- Two pending rows have one key. -/
def repeatsKey : List RetryRow → Bool
  | [] => false
  | r :: rest =>
    (r.isPending && rest.any fun o => o.isPending && o.sameKey r) || repeatsKey rest

/-- Changes the retry with a number, unless two pending ones would have one key. -/
def putRetry (id : Int) (f : RetryRow → RetryRow) : Except StoreFault (Nat × Store) :=
  let (n, outbox) := updateWhere (fun r => r.id = id) f s.outbox
  if repeatsKey outbox then .error .repeatedKey else .ok (n, { s with outbox })

/-- Writes any status into the row of a retry. -/
def putRetryStatus (id : Int) (code : Int) : Except StoreFault (Nat × Store) :=
  s.putRetry id fun r => { r with status := .ofCode code }

/-- Writes any resource into the row of a retry. -/
def putResource (id : Int) (tag : String) : Except StoreFault (Nat × Store) :=
  s.putRetry id fun r => { r with resourceTag := tag }

end GradeRelay.Store

import GradeRelay.Store.Basic
/-!
# The stored outbox

A retry is added only while no pending one has its key.
-/

namespace GradeRelay.Store

variable (s : Store)

/-- Some pending row has the key of the retry. -/
def hasPendingKey (r : Retry) : Bool :=
  s.outbox.any fun o => o.isPending && o.sameKey (.ofRetry 0 r)

/-- Adds a retry under a new number unless a pending one has its key. -/
def addRetry (r : Retry) : Bool × Store :=
  if s.hasPendingKey r then (false, s)
  else (true, { s with outbox := s.outbox ++ [.ofRetry (freshId (s.outbox.map (·.id))) r] })

/-- The pending retries in the order in which they were added. -/
def pendingRetries : Except StoreFault (List Retry) :=
  (s.outbox.filter RetryRow.isPending).mapM RetryRow.read

/-- Keeps what a failed delivery leaves. -/
def keepRetry (r : Retry) : Recording × Store :=
  match s.addRetry r with
  | (true, s) => (.recorded, s)
  | (false, s) => (.duplicateSuppressed, s)

end GradeRelay.Store

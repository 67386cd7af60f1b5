import GradeRelay.Identifier
/-!
# Refusals

Why an event stopped short of a delivery. None of these is a fault.
-/

namespace GradeRelay

/-- The kinds of rows that an event leads to. -/
inductive Entity where
  | attempt
  | completion
  | assessment
  | user
  | course
  deriving DecidableEq, Repr, Inhabited

/-- The name of an entity in messages. -/
def Entity.label : Entity → String
  | .attempt => "attempt"
  | .completion => "completion"
  | .assessment => "assessment"
  | .user => "user"
  | .course => "course"

/-- Why an event stopped short of a delivery. -/
inductive Refusal where
  /-- Required keys are absent or hold no identifier. -/
  | incompleteEvent (missing : List String)
  | unsupportedEvent (name : String)
  | entityNotFound (entity : Entity) (id : Int)
  | previewAttempt
  | attemptInProgress
  /-- Finished, but without a score. -/
  | notYetGraded
  | suspendedLearner
  /-- The row belongs to somebody else than the event is about. -/
  | subjectMismatch (subject owner : UserId)
  | missingExternalId (entity : Entity) (id : Int)
  | priorLearningCredit
  | deferredFeedbackActivity
  | noFinishedAttempt
  deriving DecidableEq, Repr, Inhabited

/-- Why an event is not followed up, in words. -/
def Refusal.message : Refusal → String
  | .incompleteEvent missing => "incomplete event (missing: " ++ ", ".intercalate missing ++ ")"
  | .unsupportedEvent name => "unsupported event: " ++ name
  | .entityNotFound entity id => entity.label ++ " " ++ toString id ++ " not found"
  | .previewAttempt => "preview attempt"
  | .attemptInProgress => "attempt in progress"
  | .notYetGraded => "attempt not yet graded"
  | .suspendedLearner => "learner suspended"
  | .subjectMismatch subject owner =>
    "event is about user " ++ toString subject ++ " but the record belongs to " ++ toString owner
  | .missingExternalId entity id => entity.label ++ " " ++ toString id ++ " has no external id"
  | .priorLearningCredit => "already credited through prior learning"
  | .deferredFeedbackActivity => "deferred-feedback activity"
  | .noFinishedAttempt => "no finished attempt"

end GradeRelay

import GradeRelay.Dossier
import GradeRelay.Event
import GradeRelay.Store.Source
/-!
# Admission of events

Before anything is written the rows behind an event are gathered, and the conditions checked
under which the event is followed up. `Store.gather` takes the attempt from the event, or for a
completion the latest finished one; the course is the assessment's for an attempt that changed,
else the event's own.
-/

namespace GradeRelay

/-- Why an event is not followed up to its end. -/
inductive Halt where
  | skip (reason : Refusal)
  | fault (cause : Fault)
  deriving DecidableEq, Repr, Inhabited

/-- A look-up that may meet a row without a meaning. -/
def Halt.ofStore {α : Type} : Except StoreFault α → Except Halt α
  | .ok a => .ok a
  | .error f => .error (.fault (.store f))

/-- A row that has to be there. -/
def Halt.require {α : Type} (entity : Entity) (id : Int) : Option α → Except Halt α
  | some a => .ok a
  | none => .error (.skip (.entityNotFound entity id))

/-- A row of an event has to belong to the event's subject. -/
def Event.checkOwner (e : Event) (owner : UserId) : Except Halt Unit :=
  if e.subject = owner then .ok () else .error (.skip (.subjectMismatch e.subject owner))

namespace Store

variable (s : Store)

/-- The attempt that an event is about: the one it names, or for a completion the learner's latest
finished one. -/
def targetAttempt (e : Event) : Except Halt Attempt :=
  match e.target with
  | .attempt id => do
    Halt.require .attempt id (← Halt.ofStore (s.attempt? id))
  | .completion id => do
    let completion ← Halt.require .completion id (s.completion? id)
    e.checkOwner completion.learnerId
    match ← Halt.ofStore (s.latestFinished? completion.assessmentId completion.learnerId) with
    | some attempt => return attempt
    | none => throw (.skip .noFinishedAttempt)

/-- The course of an event: the assessment's for a changed attempt, else the one that it names. -/
def courseIdOf (e : Event) (assessment : Assessment) : CourseId :=
  if e.kind = .attemptUpdated then assessment.courseId else e.courseId

/-- Gathers the rows that an event is about, and checks that the attempt is its subject's. -/
def gather (e : Event) : Except Halt Dossier := do
  let attempt ← s.targetAttempt e
  e.checkOwner attempt.learnerId
  let assessment ←
    Halt.require .assessment attempt.assessmentId (s.assessment? attempt.assessmentId)
  let learner ← Halt.require .user attempt.learnerId (s.user? attempt.learnerId)
  let courseId := courseIdOf e assessment
  let course ← Halt.require .course courseId (s.course? courseId)
  return { attempt, assessment, learner, course }

/-- Why the state of an attempt stops an event: a graded question on a finished attempt without a
score, a change of an attempt still in progress, or a preview. -/
def attemptRefusal? (kind : Event.Kind) (a : Attempt) : Option Refusal :=
  if kind = .questionGraded && a.state = .finished && a.score.isNone then some .notYetGraded
  else if kind = .attemptUpdated && a.state = .inProgress then some .attemptInProgress
  else if a.preview then some .previewAttempt
  else none

/-- Why a completion is not passed on: the learner or the course is not known outside, the learner
brought the credit along, or grading by hand reports it. -/
def completionRefusal? (d : Dossier) : Option Refusal :=
  if Text.isBlankText d.learner.externalId then some (.missingExternalId .user d.learner.id)
  else if Text.isBlankText d.course.externalId then some (.missingExternalId .course d.course.id)
  else if s.hasCredit d.course.id d.assessment.id d.learner.id then some .priorLearningCredit
  else if d.assessment.isDeferred then some .deferredFeedbackActivity
  else none

/-- Why an event with these rows is not followed up. -/
def refusal? (kind : Event.Kind) (d : Dossier) : Option Refusal :=
  (attemptRefusal? kind d.attempt).or
    (if kind = .completionUpdated then s.completionRefusal? d else none)

end Store

end GradeRelay

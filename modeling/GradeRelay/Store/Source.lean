import GradeRelay.Store.Basic
/-!
# Source rows

Writing and looking up what the platform keeps: users, courses, assessments, attempts, roles,
completions and credit notes. A row whose number is taken is refused; a role given twice is kept
once; completions and credit notes are overwritten in place.
-/

namespace GradeRelay.Store

variable (s : Store)

/-! ## Writing -/

/-- Adds a user under a number of its own. -/
def addUser (u : User) : Except StoreFault Store :=
  if s.users.any fun v => v.id = u.id then .error (.repeatedId .users)
  else .ok { s with users := s.users ++ [u] }

/-- Adds a course under a number of its own. -/
def addCourse (c : Course) : Except StoreFault Store :=
  if s.courses.any fun d => d.id = c.id then .error (.repeatedId .courses)
  else .ok { s with courses := s.courses ++ [c] }

/-- Adds an assessment; its maximal score must be a number. -/
def addAssessment (a : Assessment) : Except StoreFault Store :=
  match Score.stored a.maxScore with
  | none => .error .missingMaxScore
  | some maxScore =>
    if s.assessments.any fun b => b.id = a.id then .error (.repeatedId .assessments)
    else .ok { s with assessments := s.assessments ++ [{ a with maxScore }] }

/-- Adds an attempt under a number of its own. -/
def addAttempt (a : Attempt) : Except StoreFault Store :=
  if s.attempts.any fun b => b.id = a.id then .error (.repeatedId .attempts)
  else .ok { s with attempts := s.attempts ++ [.ofAttempt a] }

/-- Gives a user a role, once. -/
def addRole (userId : UserId) (roleId : Int) : Store :=
  if s.roles.contains ⟨userId, roleId⟩ then s
  else { s with roles := s.roles ++ [⟨userId, roleId⟩] }

/-- Gives an attempt a score. -/
def setScore (id : AttemptId) (score : Option Float) : Store :=
  { s with
    attempts := s.attempts.map fun r =>
      if r.id = id then { r with score := score.bind Score.stored } else r }

/-- Notes how far a learner is with an assessment, in the row that is there or in a new one, and
gives the row's number. -/
def putCompletion (assessmentId : AssessmentId) (learnerId : UserId) (state : Int)
    (timeModified : Timestamp) : CompletionId × Store :=
  let isRow := fun c : Completion =>
    decide (c.assessmentId = assessmentId ∧ c.learnerId = learnerId)
  match s.completions.find? isRow with
  | some c =>
    (c.id, { s with
      completions := s.completions.map fun c =>
        if isRow c then { c with state, timeModified } else c })
  | none =>
    let id := freshId (s.completions.map (·.id))
    (id, { s with
      completions := s.completions ++ [{ id, assessmentId, learnerId, state, timeModified }] })

/-- Notes the credit that a learner brings along for an assessment of a course. -/
def putCredit (courseId : CourseId) (assessmentId : AssessmentId) (learnerId : UserId)
    (note : String) : Store :=
  let isRow := fun c : CreditRow =>
    decide (c.courseId = courseId ∧ c.assessmentId = assessmentId ∧ c.learnerId = learnerId)
  if s.credits.any isRow then
    { s with credits := s.credits.map fun c => if isRow c then { c with note } else c }
  else { s with credits := s.credits ++ [{ courseId, assessmentId, learnerId, note }] }

/-! ## Looking up -/

/-- The user under a number. -/
def user? (id : UserId) : Option User := s.users.find? fun u => u.id = id

/-- The course under a number. -/
def course? (id : CourseId) : Option Course := s.courses.find? fun c => c.id = id

/-- The assessment under a number. -/
def assessment? (id : AssessmentId) : Option Assessment := s.assessments.find? fun a => a.id = id

/-- The completion under a number. -/
def completion? (id : CompletionId) : Option Completion := s.completions.find? fun c => c.id = id

/-- The attempt in a row that was found, if any. -/
def readAttempt : Option AttemptRow → Except StoreFault (Option Attempt)
  | none => .ok none
  | some r => r.read.map some

/-- The attempt under a number, if its row can be read. -/
def attempt? (id : AttemptId) : Except StoreFault (Option Attempt) :=
  readAttempt (s.attempts.find? fun r => r.id = id)

/-- The attempt of a learner at an assessment with a given number, finished if so asked. Of
several the one with the latest time of finish, then with the greatest number of row. -/
def attemptNumbered? (assessmentId : AssessmentId) (learnerId : UserId) (number : Ordinal)
    (finishedOnly : Bool) : Except StoreFault (Option Attempt) :=
  readAttempt <| latest? AttemptRow.finishLe <| s.attempts.filter fun r =>
    r.assessmentId = assessmentId && r.learnerId = learnerId && r.number = number.toInt
      && (!finishedOnly || r.state = .finished)

/-- The finished attempt of a learner at an assessment, previews apart, with the greatest number;
of several the one with the latest time of finish, then with the greatest number of row. -/
def latestFinished? (assessmentId : AssessmentId) (learnerId : UserId) :
    Except StoreFault (Option Attempt) :=
  readAttempt <| latest? AttemptRow.numberLe <| s.attempts.filter fun r =>
    r.assessmentId = assessmentId && r.learnerId = learnerId && r.state = .finished && !r.preview

/-- The user has the role. -/
def hasRole (userId : UserId) (roleId : Int) : Bool := s.roles.contains ⟨userId, roleId⟩

/-- The learner has full credit for the assessment. -/
def isCompleted (assessmentId : AssessmentId) (learnerId : UserId) : Bool :=
  s.completions.any fun c =>
    c.assessmentId = assessmentId && c.learnerId = learnerId && c.state = Completion.full

/-- A note on credit says something: without the plain spaces at both ends it has a character
before the first NUL. -/
def isCreditNote (note : String) : Bool :=
  !((Text.strip (· = ' ') note.toList).takeWhile (· != '\x00')).isEmpty

/-- The learner brings credit along for the assessment of the course. -/
def hasCredit (courseId : CourseId) (assessmentId : AssessmentId) (learnerId : UserId) : Bool :=
  s.credits.any fun c =>
    c.courseId = courseId && c.assessmentId = assessmentId && c.learnerId = learnerId
      && isCreditNote c.note

end GradeRelay.Store

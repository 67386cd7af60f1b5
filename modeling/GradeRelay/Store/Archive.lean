import GradeRelay.Json.Parser
import GradeRelay.Json.Printer
import GradeRelay.Store.Basic
/-!
# Archives

A store as one JSON text: an object with an array for each table and in it an array of columns for
each row. Doubles that JSON has no number for are written as words.

* `ReviewRow.ofColumns?_toColumns`, `RetryRow.ofColumns?_toColumns` and their like: a row is read
  from the columns that it is written as.
-/

namespace GradeRelay

/-- A double as a column. -/
def Score.toColumn (x : Float) : Json :=
  if x.isInf then .string (if 0 < x then "inf" else "-inf") else .number (.float x)

/-- The double in a column. -/
def Score.ofColumn? : Json → Option Float
  | .number (.float x) => some x
  | .string s =>
    if s = "inf" then some (Float.ofBits 0x7ff0000000000000)
    else if s = "-inf" then some (Float.ofBits 0xfff0000000000000)
    else none
  | _ => none

namespace Archive

/-- A column that may be empty. -/
def optional? {α : Type} (f : Json → Option α) : Json → Option (Option α)
  | .null => some none
  | j => (f j).map some

/-- The number in a column. -/
def int? : Json → Option Int
  | .number (.int n) => some n
  | _ => none

/-- The ordinal in a column. -/
def ordinal? (j : Json) : Option Ordinal := (int? j).bind Ordinal.ofInt?

end Archive

open Archive

/-- The columns of a user. -/
def User.toColumns (u : User) : Json :=
  .array [.int u.id, .string u.externalId, .string u.username, .string u.firstName,
    .string u.lastName, .string u.email, .bool u.suspended]

/-- A user from its columns. -/
def User.ofColumns? : Json → Option User
  | .array [.number (.int id), .string externalId, .string username, .string firstName,
      .string lastName, .string email, .bool suspended] =>
    some { id, externalId, username, firstName, lastName, email, suspended }
  | _ => none

/-- The columns of a course. -/
def Course.toColumns (c : Course) : Json :=
  .array [.int c.id, .string c.externalId, .string c.shortName, .string c.fullName]

/-- A course from its columns. -/
def Course.ofColumns? : Json → Option Course
  | .array [.number (.int id), .string externalId, .string shortName, .string fullName] =>
    some { id, externalId, shortName, fullName }
  | _ => none

/-- The columns of an assessment. -/
def Assessment.toColumns (a : Assessment) : Json :=
  .array [.int a.id, .int a.courseId, .string a.name, Score.toColumn a.maxScore,
    .string a.behaviour.tag]

/-- An assessment from its columns. -/
def Assessment.ofColumns? : Json → Option Assessment
  | .array [.number (.int id), .number (.int courseId), .string name, score, .string tag] =>
    (Score.ofColumn? score).map fun maxScore =>
      { id, courseId, name, maxScore, behaviour := .ofTag tag }
  | _ => none

/-- The columns of an attempt. -/
def AttemptRow.toColumns (r : AttemptRow) : Json :=
  .array [.int r.id, .int r.assessmentId, .int r.learnerId, .int r.number, .int r.usageId,
    .string r.state.tag, Json.optional Score.toColumn r.score, .bool r.preview, .int r.timeStart,
    .int r.timeFinish, .int r.timeModified]

/-- An attempt from its columns. -/
def AttemptRow.ofColumns? : Json → Option AttemptRow
  | .array [.number (.int id), .number (.int assessmentId), .number (.int learnerId),
      .number (.int number), .number (.int usageId), .string tag, score, .bool preview,
      .number (.int timeStart), .number (.int timeFinish), .number (.int timeModified)] =>
    (optional? Score.ofColumn? score).map fun score =>
      { id, assessmentId, learnerId, number, usageId, state := .ofTag tag, score, preview,
        timeStart, timeFinish, timeModified }
  | _ => none

/-- The columns of a question. -/
def Question.toColumns (q : Question) : Json :=
  .array [.int q.id, .int q.usageId, .int q.questionId, .int q.slot.toInt, .string q.behaviour]

/-- A question from its columns. -/
def Question.ofColumns? : Json → Option Question
  | .array [.number (.int id), .number (.int usageId), .number (.int questionId), slot,
      .string behaviour] =>
    (ordinal? slot).map fun slot => { id, usageId, questionId, slot, behaviour }
  | _ => none

/-- The columns of a step. -/
def Step.toColumns (s : Step) : Json :=
  .array [.int s.id, .int s.questionAttemptId, .int s.sequence.toInt, .string s.state.tag,
    Json.optional Score.toColumn s.fraction, .int s.timeCreated, .int s.userId]

/-- A step from its columns. -/
def Step.ofColumns? : Json → Option Step
  | .array [.number (.int id), .number (.int questionAttemptId), sequence, .string tag, fraction,
      .number (.int timeCreated), .number (.int userId)] => do
    let sequence ← ordinal? sequence
    let fraction ← optional? Score.ofColumn? fraction
    return { id, questionAttemptId, sequence, state := .ofTag tag, fraction, timeCreated, userId }
  | _ => none

/-- The columns of a note. -/
def NoteRow.toColumns (r : NoteRow) : Json :=
  .array [.int r.stepId, .string r.note.name, .string r.note.value]

/-- A note from its columns. -/
def NoteRow.ofColumns? : Json → Option NoteRow
  | .array [.number (.int stepId), .string name, .string value] => some ⟨stepId, ⟨name, value⟩⟩
  | _ => none

/-- The columns of a role. -/
def RoleRow.toColumns (r : RoleRow) : Json := .array [.int r.userId, .int r.roleId]

/-- A role from its columns. -/
def RoleRow.ofColumns? : Json → Option RoleRow
  | .array [.number (.int userId), .number (.int roleId)] => some ⟨userId, roleId⟩
  | _ => none

/-- The columns of a completion. -/
def Completion.toColumns (c : Completion) : Json :=
  .array [.int c.id, .int c.assessmentId, .int c.learnerId, .int c.state, .int c.timeModified]

/-- A completion from its columns. -/
def Completion.ofColumns? : Json → Option Completion
  | .array [.number (.int id), .number (.int assessmentId), .number (.int learnerId),
      .number (.int state), .number (.int timeModified)] =>
    some { id, assessmentId, learnerId, state, timeModified }
  | _ => none

/-- The columns of a note on credit. -/
def CreditRow.toColumns (c : CreditRow) : Json :=
  .array [.int c.courseId, .int c.assessmentId, .int c.learnerId, .string c.note]

/-- A note on credit from its columns. -/
def CreditRow.ofColumns? : Json → Option CreditRow
  | .array [.number (.int courseId), .number (.int assessmentId), .number (.int learnerId),
      .string note] => some { courseId, assessmentId, learnerId, note }
  | _ => none

/-- The columns of a review. -/
def ReviewRow.toColumns (r : ReviewRow) : Json :=
  .array [.int r.attemptId, Json.optional .int r.priorAttemptId, Json.optional .int r.assignee,
    .int r.attemptNumber.toInt, .int r.state, .int r.timeStart, Json.optional .int r.timeFinish]

/-- A review from its columns. -/
def ReviewRow.ofColumns? : Json → Option ReviewRow
  | .array [.number (.int attemptId), prior, assignee, number, .number (.int state),
      .number (.int timeStart), finish] => do
    let priorAttemptId ← optional? int? prior
    let assignee ← optional? int? assignee
    let attemptNumber ← ordinal? number
    let timeFinish ← optional? int? finish
    return { attemptId, priorAttemptId, assignee, attemptNumber, state, timeStart, timeFinish }
  | _ => none

/-- The columns of an allowance. -/
def Allowance.toColumns (a : Allowance) : Json :=
  .array [.int a.assessmentId, .int a.learnerId, .int a.permitted.toInt]

/-- An allowance from its columns. -/
def Allowance.ofColumns? : Json → Option Allowance
  | .array [.number (.int assessmentId), .number (.int learnerId), permitted] =>
    (ordinal? permitted).map fun permitted => { assessmentId, learnerId, permitted }
  | _ => none

/-- The columns of a retry. -/
def RetryRow.toColumns (r : RetryRow) : Json :=
  .array [.int r.id, .int r.learnerId, .string r.learnerExternalId, .int r.courseId,
    .string r.courseExternalId, .string r.assessmentName, .int r.timeComplete, .int r.attemptId,
    .int r.status.code, .int r.timeAdded, .string r.resourceTag]

/-- A retry from its columns. -/
def RetryRow.ofColumns? : Json → Option RetryRow
  | .array [.number (.int id), .number (.int learnerId), .string learnerExternalId,
      .number (.int courseId), .string courseExternalId, .string assessmentName,
      .number (.int timeComplete), .number (.int attemptId), .number (.int status),
      .number (.int timeAdded), .string resourceTag] =>
    some
      { id, learnerId, learnerExternalId, courseId, courseExternalId, assessmentName,
        timeComplete, attemptId, status := .ofCode status, timeAdded, resourceTag }
  | _ => none

namespace Archive

/-- A table as the array of its rows. -/
def table {α : Type} (f : α → Json) (rows : List α) : Json := .array (rows.map f)

/-- The rows of the table under a name. -/
def tableAt? {α : Type} (j : Json) (name : String) (f : Json → Option α) : Option (List α) :=
  match j.get? name with
  | some (.array items) => items.mapM f
  | _ => none

/-- A store as an object with an array for each table. -/
def ofStore (s : Store) : Json :=
  .object [
    ("users", table User.toColumns s.users),
    ("courses", table Course.toColumns s.courses),
    ("assessments", table Assessment.toColumns s.assessments),
    ("attempts", table AttemptRow.toColumns s.attempts),
    ("questions", table Question.toColumns s.questions),
    ("steps", table Step.toColumns s.steps),
    ("notes", table NoteRow.toColumns s.notes),
    ("roles", table RoleRow.toColumns s.roles),
    ("completions", table Completion.toColumns s.completions),
    ("credits", table CreditRow.toColumns s.credits),
    ("queue", table ReviewRow.toColumns s.queue),
    ("allowances", table Allowance.toColumns s.allowances),
    ("outbox", table RetryRow.toColumns s.outbox)]

/-- The store in an object, if every row of every table can be read. -/
def toStore? (j : Json) : Option Store := do
  return {
    users := ← tableAt? j "users" User.ofColumns?
    courses := ← tableAt? j "courses" Course.ofColumns?
    assessments := ← tableAt? j "assessments" Assessment.ofColumns?
    attempts := ← tableAt? j "attempts" AttemptRow.ofColumns?
    questions := ← tableAt? j "questions" Question.ofColumns?
    steps := ← tableAt? j "steps" Step.ofColumns?
    notes := ← tableAt? j "notes" NoteRow.ofColumns?
    roles := ← tableAt? j "roles" RoleRow.ofColumns?
    completions := ← tableAt? j "completions" Completion.ofColumns?
    credits := ← tableAt? j "credits" CreditRow.ofColumns?
    queue := ← tableAt? j "queue" ReviewRow.ofColumns?
    allowances := ← tableAt? j "allowances" Allowance.ofColumns?
    outbox := ← tableAt? j "outbox" RetryRow.ofColumns? }

/-- How deep an archive nests: tables, rows and columns. -/
def depth : Nat := 3

/-- The text of a store. -/
def write (s : Store) : String := (ofStore s).compact

/-- The store in a text; an empty text holds an empty store. -/
def read? (text : String) : Option Store :=
  if text.isEmpty then some {} else (Json.read depth text).bind toStore?

end Archive

/-! ## Rows read back -/

@[simp]
theorem User.ofColumns?_toColumns (u : User) : ofColumns? u.toColumns = some u := rfl

@[simp]
theorem Course.ofColumns?_toColumns (c : Course) : ofColumns? c.toColumns = some c := rfl

@[simp]
theorem NoteRow.ofColumns?_toColumns (r : NoteRow) : ofColumns? r.toColumns = some r := rfl

@[simp]
theorem CreditRow.ofColumns?_toColumns (c : CreditRow) : ofColumns? c.toColumns = some c := rfl

@[simp]
theorem Archive.ordinal?_toInt (n : Ordinal) : ordinal? (.int n.toInt) = some n := by
  simp [ordinal?, int?, Json.int]

@[simp]
theorem Archive.optional?_int (n : Option Int) :
    optional? int? (Json.optional .int n) = some n := by
  cases n <;> rfl

@[simp]
theorem ReviewRow.ofColumns?_toColumns (r : ReviewRow) : ofColumns? r.toColumns = some r := by
  have h1 := optional?_int r.priorAttemptId
  have h2 := optional?_int r.assignee
  have h3 := ordinal?_toInt r.attemptNumber
  have h4 := optional?_int r.timeFinish
  simp only [toColumns, ofColumns?, Json.int] at *
  simp [h1, h2, h3, h4]

@[simp]
theorem RetryRow.ofColumns?_toColumns (r : RetryRow) : ofColumns? r.toColumns = some r := by
  have h := Retry.Status.ofCode_code r.status
  simp only [toColumns, ofColumns?, Json.int, h]

end GradeRelay

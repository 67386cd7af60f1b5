import GradeRelay.Json.Basic
import GradeRelay.Store.Basic
/-!
# A small course

One course with a learner, a grader and an administrator, from which instances of the theorems
start.
-/

namespace GradeRelay.Sample

/-- The role of a grader. -/
def graderRole : Int := 11

/-- A user of the course. -/
def user (id : UserId) (name : String) : User where
  id := id
  externalId := "EXT-" ++ toString id
  username := name
  firstName := name
  lastName := "Example"
  email := name ++ "@example.org"
  suspended := false

/-- An assessment of the course. -/
def assessment (name : String) (behaviour : Behaviour) : Assessment where
  id := 5
  courseId := 9
  name := name
  maxScore := 10
  behaviour := behaviour

/-- A finished attempt of the learner. -/
def attempt (id : AttemptId) (number : Ordinal) (score : Option Float) : Attempt where
  id := id
  assessmentId := 5
  learnerId := 3
  number := number
  usageId := 10 * id
  state := .finished
  score := score
  preview := false
  timeStart := 1700000000 + id
  timeFinish := 1700000500 + id
  timeModified := 1700000600 + id

/-- A question that waits for a grader. -/
def question (id : QuestionAttemptId) (usageId questionId : Int) (slot : Ordinal) : Question where
  id := id
  usageId := usageId
  questionId := questionId
  slot := slot
  behaviour := "manualgraded"

/-- A step on a question, taken by the grader. -/
def step (id : StepId) (question : QuestionAttemptId) (sequence : Ordinal) (state : StepState)
    (timeCreated : Timestamp) : Step where
  id := id
  questionAttemptId := question
  sequence := sequence
  state := state
  fraction :=
    match state with
    | .accepted => some 1
    | .rejected => some 0
    | _ => none
  timeCreated := timeCreated
  userId := 7

/-- The people of the course. -/
def people : Store where
  users := [user 3 "learner", user 7 "grader", user 2 "admin"]
  courses := [{ id := 9, externalId := "CRS-9", shortName := "FA101",
                fullName := "First Aid Fundamentals" }]
  roles := [{ userId := 7, roleId := graderRole }]

/-- An attempt at a question that a grader has decided about. -/
def decided (score : Option Float) : Store :=
  { people with
    assessments := [assessment "Quiz" .deferredFeedback]
    attempts := [.ofAttempt (attempt 42 1 score)]
    questions := [question 4202 420 72 2]
    steps := [step 42002 4202 1 .rejected 1700099960] }

/-- What the platform announces when an attempt of the learner is handed in. -/
def submission (attempt : AttemptId) (actor : UserId) : Json :=
  .object [("eventname", .string "\\mod_quiz\\event\\attempt_submitted"), ("userid", .int actor),
    ("relateduserid", .int 3), ("courseid", .int 9), ("objectid", .int attempt),
    ("contextid", .int 501), ("timecreated", .int 1700000000)]

/-- What the platform announces when a grader has marked a question of the learner. -/
def marking (attempt : AttemptId) (actor : UserId) : Json :=
  .object [("eventname", .string "\\mod_quiz\\event\\question_manually_graded"),
    ("userid", .int actor), ("relateduserid", .int 3), ("courseid", .int 9),
    ("objectid", .int 4202), ("contextid", .int 501), ("timecreated", .int 1700000000),
    ("other", .object [("attemptid", .int attempt)])]

end GradeRelay.Sample

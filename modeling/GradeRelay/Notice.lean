import GradeRelay.Attempt
import GradeRelay.Json.Basic
import GradeRelay.Person
import GradeRelay.Service
/-!
# Notices

What the records service is told: how an attempt stands, or that an activity was passed or failed.
`Notice.toJson` is the body in which it is told.
-/

namespace GradeRelay

/-- What a supervisor is told about an activity. -/
inductive Verdict where
  | passed
  | failed
  deriving DecidableEq, Repr, Inhabited

/-- The code of a verdict at the records service. -/
def Verdict.code : Verdict → Int
  | .passed => 876750004
  | .failed => 876750007

/-- What the service is told about a learner. -/
structure NoticePerson where
  externalId : String
  username : String
  firstName : String
  lastName : String
  email : String
  deriving DecidableEq, Repr, Inhabited

/-- What the service is told about an assessment. -/
structure NoticeQuiz where
  id : AssessmentId
  name : String
  maxScore : Float
  courseId : CourseId
  deriving Repr, Inhabited

/-- How an attempt stands. -/
structure AttemptNotice where
  id : AttemptId
  person : NoticePerson
  course : Course
  quiz : NoticeQuiz
  number : Ordinal
  state : Attempt.State
  timeStart : Timestamp
  timeFinish : Timestamp
  timeModified : Timestamp
  score : Option Float
  deriving Repr, Inhabited

/-- That an activity was passed or failed. -/
structure ActivityNotice where
  personExternalId : String
  personUsername : String
  personEmail : String
  courseExternalId : String
  courseCode : String
  activityName : String
  modified : Timestamp
  complete : Bool
  completeDate : Option Timestamp
  verdict : Verdict
  /-- The external id of the assigned grader. -/
  assessor : Option String
  deriving DecidableEq, Repr, Inhabited

/-- What is ready to be delivered. -/
inductive Notice where
  | attempt (n : AttemptNotice)
  | activity (n : ActivityNotice)
  deriving Repr, Inhabited

namespace Notice

/-- The resource that a notice is delivered to. -/
def resource : Notice → Resource
  | .attempt _ => .attempts
  | .activity _ => .activities

/-- The time that a notice gives as that of the last change. -/
def modified : Notice → Timestamp
  | .attempt n => n.timeModified
  | .activity n => n.modified

end Notice

/-- The learner as the body of a notice has it. -/
def NoticePerson.toJson (p : NoticePerson) : Json :=
  .object [("idnumber", .string p.externalId), ("username", .string p.username),
    ("firstname", .string p.firstName), ("lastname", .string p.lastName),
    ("email", .string p.email)]

/-- The course as the body of a notice has it. -/
def Course.toJson (c : Course) : Json :=
  .object [("id", .int c.id), ("idnumber", .string c.externalId),
    ("shortname", .string c.shortName), ("fullname", .string c.fullName)]

/-- The assessment as the body of a notice has it. -/
def NoticeQuiz.toJson (q : NoticeQuiz) : Json :=
  .object [("id", .int q.id), ("name", .string q.name),
    ("sumgrades", .number (.float q.maxScore)), ("course", .int q.courseId)]

/-- The body of a notice about an attempt. -/
def AttemptNotice.toJson (n : AttemptNotice) : Json :=
  .object [("id", .int n.id), ("user", n.person.toJson), ("course", n.course.toJson),
    ("quiz", n.quiz.toJson), ("attempt", .int n.number.toInt), ("state", .string n.state.tag),
    ("timestart", .int n.timeStart), ("timefinish", .int n.timeFinish),
    ("timemodified", .int n.timeModified),
    ("sumgrades", Json.optional (fun x => .number (.float x)) n.score)]

/-- The body that tells about an activity. The assessor is left out when there is none. -/
def ActivityNotice.toJson (n : ActivityNotice) : Json :=
  .object ([("status", .string "Active"), ("person.id", .string n.personExternalId),
    ("person.username", .string n.personUsername), ("person.email", .string n.personEmail),
    ("course.id", .string n.courseExternalId), ("course.code", .string n.courseCode),
    ("activity.name", .string n.activityName), ("activity.type", .string "prefix_quiz"),
    ("modified", .int n.modified),
    ("lmscomplete", .string (if n.complete then "True" else "False")),
    ("lmscompletedate", Json.optional Json.int n.completeDate),
    ("supervisorstatus", .int n.verdict.code)] ++
    match n.assessor with
    | none => []
    | some a => [("assessor", .string a)])

/-- The body of a notice. -/
def Notice.toJson : Notice → Json
  | .attempt n => n.toJson
  | .activity n => n.toJson

end GradeRelay

import GradeRelay.Text.Quoted
/-!
# Faults

What makes a call fail, as opposed to an event that is skipped or a delivery that is kept for
later. `Fault.message?` gives the wording of those faults that carry one.
-/

namespace GradeRelay

/-- The tables whose rows bring their own number. -/
inductive SourceTable where
  | users
  | courses
  | assessments
  | attempts
  | questions
  | steps
  deriving DecidableEq, Repr, Inhabited

/-- The name of a table in messages. -/
def SourceTable.label : SourceTable → String
  | .users => "users"
  | .courses => "courses"
  | .assessments => "assessments"
  | .attempts => "attempts"
  | .questions => "question_attempts"
  | .steps => "grading_steps"

/-- What the store refuses. -/
inductive StoreFault where
  /-- A row with this number is there already. -/
  | repeatedId (table : SourceTable)
  /-- A maximal score that is no number. -/
  | missingMaxScore
  /-- An attempt's number is no ordinal. -/
  | attemptNumber (value : Int)
  /-- No state of a review has this code. -/
  | reviewState (value : Int)
  /-- No resource has this name. -/
  | resource (tag : String)
  /-- A second pending retry with one key. -/
  | repeatedKey
  /-- The store may be read only. -/
  | readOnly
  deriving DecidableEq, Repr, Inhabited

/-- What is wrong with a stored row, in the words of the store. -/
def StoreFault.message : StoreFault → String
  | .repeatedId table => "UNIQUE constraint failed: " ++ table.label ++ ".id"
  | .missingMaxScore => "NOT NULL constraint failed: assessments.max_score"
  | .attemptNumber n => "Integer " ++ toString n ++ " out of range at index 3"
  | .reviewState n => "Integer " ++ toString n ++ " out of range at index 4"
  | .resource tag =>
    "Conversion error from type Text at index: 10, unknown delivery type " ++ Text.quote tag
  | .repeatedKey =>
    "UNIQUE constraint failed: outbox.learner_id, outbox.course_id, outbox.assessment_name, "
      ++ "outbox.attempt_id, outbox.delivery_type"
  | .readOnly => "attempt to write a readonly database"

/-- What is wrong with the settings. -/
inductive SettingsFault where
  | zeroTimeout
  | blankBaseUrl
  deriving DecidableEq, Repr, Inhabited

/-- What is wrong with settings. -/
def SettingsFault.message : SettingsFault → String
  | .zeroTimeout => "timeout_secs must be greater than zero"
  | .blankBaseUrl => "base_url must not be empty"

/-- What makes a call fail. -/
inductive Fault where
  | settings (cause : SettingsFault)
  | store (cause : StoreFault)
  /-- A file cannot be read as text. -/
  | unreadable
  /-- A text is no JSON value. -/
  | json
  /-- A text holds no settings. -/
  | toml
  /-- The store cannot be opened. -/
  | unopened
  /-- An attempt number or a sequence number has no successor. -/
  | overflow
  deriving DecidableEq, Repr, Inhabited

/-- What is said about a fault, for those that say more than that they happened. -/
def Fault.message? : Fault → Option String
  | .settings cause => some ("Config error: " ++ cause.message)
  | .store cause => some ("Store error: " ++ cause.message)
  | .overflow => some "attempt to add with overflow"
  | _ => none

end GradeRelay

import GradeRelay.Identifier
/-!
# People and courses

The rows about users and courses that a notice to the records service is written from.
-/

namespace GradeRelay

/-- A user of the platform. -/
structure User where
  id : UserId
  /-- The name under which the records service knows the user. -/
  externalId : String
  username : String
  firstName : String
  lastName : String
  email : String
  suspended : Bool
  deriving DecidableEq, Repr, Inhabited

/-- A course of the platform. -/
structure Course where
  id : CourseId
  /-- The name under which the records service knows the course. -/
  externalId : String
  shortName : String
  fullName : String
  deriving DecidableEq, Repr, Inhabited

end GradeRelay

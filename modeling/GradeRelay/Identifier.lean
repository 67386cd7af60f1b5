import GradeRelay.Text.Blank
/-!
# Identifiers

Rows of every table, users and points in time are named by 64-bit signed integers. Their text is
an optional sign and decimal digits; white space around it does not count.

* `inRange_iff`: what fits lies between `least` and `greatest`;
* `ofDigits?_toDigits`: the decimal digits of a number read back.
-/

namespace GradeRelay

/-- The number of a user. -/
abbrev UserId := Int

/-- The number of a course. -/
abbrev CourseId := Int

/-- The number of an assessment. -/
abbrev AssessmentId := Int

/-- The number of an attempt. -/
abbrev AttemptId := Int

/-- The number of a question as attempted within one attempt. -/
abbrev QuestionAttemptId := Int

/-- The number of a step on a question. -/
abbrev StepId := Int

/-- The number of a completion. -/
abbrev CompletionId := Int

/-- Seconds since the start of 1970. -/
abbrev Timestamp := Int

namespace Identifier

/-- The least number that fits. -/
def least : Int := -9223372036854775808

/-- The greatest number that fits. -/
def greatest : Int := 9223372036854775807

/-- A number that fits an identifier. -/
def inRange : Int → Bool
  | .ofNat k => k < 9223372036854775808
  | .negSucc k => k < 9223372036854775808

/-- The number that one or more decimal digits spell. -/
def ofDigits? (cs : List Char) : Option Nat :=
  if cs.isEmpty then none
  else if cs.all Char.isDigit then some (Nat.ofDigitChars 10 cs 0) else none

/-- The number that an optional sign and decimal digits spell. -/
def ofSigned? : List Char → Option Int
  | '-' :: ds => (ofDigits? ds).map fun n => -(n : Int)
  | '+' :: ds => (ofDigits? ds).map fun n => (n : Int)
  | ds => (ofDigits? ds).map fun n => (n : Int)

/-- The identifier that a text spells, nothing else allowed in it. -/
def ofText? (cs : List Char) : Option Int :=
  (ofSigned? cs).filter inRange

/-- The identifier that a text spells, white space around it allowed. -/
def ofPaddedText? (s : String) : Option Int :=
  ofText? (Text.strip Text.isBlank s.toList)

theorem inRange_iff {n : Int} : inRange n = true ↔ least ≤ n ∧ n ≤ greatest := by
  cases n with
  | ofNat k => simp only [inRange, least, greatest, decide_eq_true_eq, Int.ofNat_eq_natCast]; omega
  | negSucc k => simp only [inRange, least, greatest, decide_eq_true_eq]; omega

@[simp]
theorem ofDigits?_toDigits (n : Nat) : ofDigits? (Nat.toDigits 10 n) = some n := by
  have hd : (Nat.toDigits 10 n).all Char.isDigit = true :=
    List.all_eq_true.2 fun c hc => Nat.isDigit_of_mem_toDigits (by omega) (by omega) hc
  simp [ofDigits?, hd, Nat.ofDigitChars_ten_toDigits]

end Identifier

end GradeRelay

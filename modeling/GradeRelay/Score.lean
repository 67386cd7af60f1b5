/-!
# Scores

Scores, maxima and fractions are doubles. Two scores less than one ten-millionth apart count as
equal. The store keeps neither a NaN, which it turns into an absent value, nor the sign of zero.
-/

namespace GradeRelay.Score

/-- Scores closer than this count as equal. -/
def tolerance : Float := 1e-7

/-- The two scores count as equal. -/
def close (a b : Float) : Bool := (a - b).abs < tolerance

/-- What the store gives back for a double. -/
def stored (x : Float) : Option Float :=
  if x.isNaN then none else some (if x == 0.0 then 0.0 else x)

end GradeRelay.Score

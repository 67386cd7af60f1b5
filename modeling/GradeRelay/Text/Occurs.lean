/-!
# Occurrence of one text in another

* `occursIn_iff`: the test holds exactly when the word is a contiguous part of the text.
-/

namespace GradeRelay.Text

/-- The word stands somewhere in the text. -/
def occursIn (w : List Char) : List Char → Bool
  | [] => w.isEmpty
  | c :: rest => w.isPrefixOf (c :: rest) || occursIn w rest

theorem occursIn_iff {w cs : List Char} : occursIn w cs = true ↔ w <:+: cs := by
  induction cs with
  | nil => simp [occursIn]
  | cons c r ih => simp [occursIn, ih, List.infix_cons_iff]

end GradeRelay.Text

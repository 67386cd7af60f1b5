/-!
# Columns

Padding a text with spaces up to a width. A longer text is left as it is, so a column may
overflow but never loses a character.

* `toList_alignLeft`, `toList_alignRight`: the text stands whole next to the spaces.
-/

namespace GradeRelay.Text

/-- Spaces after the text, up to a width. -/
def alignLeft (width : Nat) (s : String) : String :=
  s ++ String.ofList (List.replicate (width - s.length) ' ')

/-- Spaces before the text, up to a width. -/
def alignRight (width : Nat) (s : String) : String :=
  String.ofList (List.replicate (width - s.length) ' ') ++ s

theorem toList_alignLeft (width : Nat) (s : String) :
    (alignLeft width s).toList = s.toList ++ List.replicate (width - s.length) ' ' := by
  simp [alignLeft]

theorem toList_alignRight (width : Nat) (s : String) :
    (alignRight width s).toList = List.replicate (width - s.length) ' ' ++ s.toList := by
  simp [alignRight]

end GradeRelay.Text

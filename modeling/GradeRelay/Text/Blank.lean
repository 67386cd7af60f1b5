/-!
# Blank characters

The characters of the Unicode property `White_Space`, and what is left of a text once a class of
characters is taken from both of its ends.
-/

namespace GradeRelay.Text

/-- The characters of the property `White_Space`. -/
def isBlank (c : Char) : Bool :=
  let n := c.toNat
  (9 ≤ n && n ≤ 13) || n == 0x20 || n == 0x85 || n == 0xa0 || n == 0x1680
    || (0x2000 ≤ n && n ≤ 0x200a) || n == 0x2028 || n == 0x2029 || n == 0x202f
    || n == 0x205f || n == 0x3000

/-- Takes the characters of a class from both ends. -/
def strip (p : Char → Bool) (cs : List Char) : List Char :=
  ((cs.dropWhile p).reverse.dropWhile p).reverse

/-- No character of the text is visible. -/
def isBlankText (s : String) : Bool := (strip isBlank s.toList).isEmpty

end GradeRelay.Text

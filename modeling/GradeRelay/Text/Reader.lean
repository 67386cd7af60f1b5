/-!
# Readers

A reader takes a value off the front of a text and gives what is left, or refuses. Readers are
plain functions on `List Char`; the one loop, `many`, goes round at most once for each character
of the text.
-/

namespace GradeRelay.Text

/-- Takes a value off the front of a text. -/
abbrev Reader (α : Type) := List Char → Option (α × List Char)

namespace Reader

/-- Reads values until one is refused, one round at most for each character of the given text. -/
def rounds {α : Type} (r : Reader α) : List Char → List Char → List α × List Char
  | [], cs => ([], cs)
  | _ :: bound, cs =>
    match r cs with
    | none => ([], cs)
    | some (a, rest) =>
      let (as, last) := rounds r bound rest
      (a :: as, last)

/-- Reads values until one is refused. A reader that takes something off the text with each value
never gets to the end of the rounds. -/
def many {α : Type} (r : Reader α) (cs : List Char) : List α × List Char := rounds r cs cs

/-- The longest run of characters of a class, and the rest. -/
def takeWhile (p : Char → Bool) (cs : List Char) : List Char × List Char :=
  (cs.takeWhile p, cs.dropWhile p)

/-- Takes one character off. -/
def char (c : Char) : Reader Unit
  | [] => none
  | d :: rest => if d = c then some ((), rest) else none

/-- Takes a word off. -/
def word (w : List Char) (cs : List Char) : Option (List Char) :=
  if w.isPrefixOf cs then some (cs.drop w.length) else none

/-- The value of a hexadecimal digit. -/
def hexValue? (c : Char) : Option Nat :=
  let n := c.toNat
  if 48 ≤ n && n ≤ 57 then some (n - 48)
  else if 97 ≤ n && n ≤ 102 then some (n - 87)
  else if 65 ≤ n && n ≤ 70 then some (n - 55)
  else none

/-- Reads exactly `k` hexadecimal digits as a number. -/
def hex (k : Nat) (cs : List Char) : Option (Nat × List Char) :=
  let ds := cs.take k
  if ds.length = k then
    (ds.foldl (fun acc c => acc.bind fun v => (hexValue? c).map (16 * v + ·)) (some 0)).map
      (·, cs.drop k)
  else none

end Reader

end GradeRelay.Text

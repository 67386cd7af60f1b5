import GradeRelay.Text.Pieces
/-!
# Places among files

A path is a text of names between slashes; the place that it leads to is told by the steps taken.
The empty name and a single dot lead nowhere, two dots lead up, any other name leads down.

* `up_child`: a step down and a step up lead back;
* `ofPath_name`: a path that is a name alone leads down by it.
-/

namespace GradeRelay

/-- A place, told from the directory of a run or from the root. -/
structure Place where
  /-- Whether it is told from the root. -/
  fromRoot : Bool := false
  /-- The steps up from the directory of the run. -/
  ups : Nat := 0
  /-- The names that lead down from there. -/
  names : List String := []
  deriving DecidableEq, Repr, Inhabited

namespace Place

/-- The names in a path, the empty ones among them. -/
def steps (path : String) : List String := (Text.pieces '/' path.toList).map String.ofList

/-- Where a path starts: at the root, or in the directory of the run. -/
def start (path : String) : Place := { fromRoot := path.toList.head? = some '/' }

/-- The place of a name below a place. -/
def child (p : Place) (name : String) : Place := { p with names := p.names ++ [name] }

/-- The place above. Nothing is above the root. -/
def up (p : Place) : Place :=
  if !p.names.isEmpty then { p with names := p.names.dropLast }
  else if p.fromRoot then p
  else { p with ups := p.ups + 1 }

/-- The place after a step. -/
def enter (p : Place) (name : String) : Place :=
  if name = "" || name = "." then p else if name = ".." then p.up else p.child name

/-- The place that a path leads to, going by the names alone. -/
def ofPath (path : String) : Place := (steps path).foldl enter (start path)

/-- One place lies somewhere below another. -/
def isBelow (q p : Place) : Bool :=
  q.fromRoot = p.fromRoot && q.ups = p.ups && p.names.isPrefixOf q.names && q.names != p.names

/-- The place next to a place whose last name goes on with a text. -/
def beside (p : Place) (ending : String) : Place :=
  { p with names := p.names.dropLast ++ [p.names.getLast?.getD "" ++ ending] }

/-- The path to a place. -/
def path (p : Place) : String :=
  let steps := List.replicate p.ups ".." ++ p.names
  if p.fromRoot then "/" ++ "/".intercalate steps
  else if steps.isEmpty then "."
  else "/".intercalate steps

@[simp]
theorem up_child (p : Place) (name : String) : (p.child name).up = p := by
  simp [up, child]

theorem ofPath_name {name : String} (h : '/' ∉ name.toList) (h0 : name ≠ "") (h1 : name ≠ ".")
    (h2 : name ≠ "..") : ofPath name = { names := [name] } := by
  have hp : ∀ cs : List Char, '/' ∉ cs → Text.pieces '/' cs = [cs] := by
    intro cs hcs
    induction cs with
    | nil => rfl
    | cons c rest ih =>
      simp only [List.mem_cons, not_or] at hcs
      simp [Text.pieces, Ne.symm hcs.1, ih hcs.2]
  have hs : start name = {} := by
    unfold start
    cases hn : name.toList with
    | nil => rfl
    | cons c rest =>
      have : ¬ c = '/' := fun e => h (by simp [hn, e])
      simp [this]
  simp [ofPath, steps, hp _ h, hs, enter, child, h0, h1, h2]

end Place

end GradeRelay

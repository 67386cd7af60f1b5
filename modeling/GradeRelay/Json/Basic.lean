/-!
# JSON values

A number is either an integer, kept exactly, or a double. The members of an object keep the order
in which their names were first seen, and each name occurs once.

* `get?_insert_self`: the last value given to a name is the one found.
-/

namespace GradeRelay

/-- A JSON number: an integer between `-2 ^ 63` and `2 ^ 64 - 1`, or a double. -/
inductive JsonNumber where
  | int (n : Int)
  | float (x : Float)
  deriving Repr, Inhabited

/-- A JSON value. -/
inductive Json where
  | null
  | bool (b : Bool)
  | number (n : JsonNumber)
  | string (s : String)
  | array (items : List Json)
  | object (members : List (String × Json))
  deriving Repr, Inhabited

namespace Json

/-- An integer as a value. -/
def int (n : Int) : Json := .number (.int n)

/-- A value, or null for none. -/
def optional {α : Type} (f : α → Json) : Option α → Json
  | none => .null
  | some a => f a

/-- Gives a name a value, in the place of an earlier one if there is one. -/
def insertMember (name : String) (value : Json) : List (String × Json) → List (String × Json)
  | [] => [(name, value)]
  | (n, v) :: rest =>
    if n = name then (name, value) :: rest else (n, v) :: insertMember name value rest

/-- The member of an object with the given name; none for any other value. -/
def get? (j : Json) (name : String) : Option Json :=
  match j with
  | .object members => members.lookup name
  | _ => none

/-- The text of a string value. -/
def text? : Json → Option String
  | .string s => some s
  | _ => none

/-- A value that is there and not `null`. -/
def isGiven : Option Json → Bool
  | none => false
  | some .null => false
  | some _ => true

@[simp]
theorem get?_insert_self (name : String) (value : Json) (members : List (String × Json)) :
    (Json.object (insertMember name value members)).get? name = some value := by
  simp only [get?]
  induction members with
  | nil => simp [insertMember]
  | cons m r ih =>
    obtain ⟨n, v⟩ := m
    by_cases h : n = name
    · simp [insertMember, h]
    · have h' : (name == n) = false := by simpa using fun e => h e.symm
      simp [insertMember, h, List.lookup_cons, h', ih]

end Json

end GradeRelay

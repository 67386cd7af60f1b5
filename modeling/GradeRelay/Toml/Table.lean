/-!
# TOML tables

A table remembers how it came about: by a header of its own, or on the way to something below it,
by a header or by a dotted key. That decides what may still be added to it.
-/

namespace GradeRelay.Toml

mutual

/-- What stands under a name. -/
inductive Item where
  | string (s : String)
  | integer (n : Int)
  | float (x : Float)
  | boolean (b : Bool)
  | moment (text : String)
  | array (items : List Item)
  /-- A table written between braces. -/
  | inline (t : Table)
  | table (t : Table)
  /-- The tables of one repeated header, the last one apart. -/
  | tables (before : List Table) (last : Table)

/-- Names and what stands under them. -/
inductive Table where
  | mk (implicit dotted : Bool) (members : List (String × Item))

end

instance : Inhabited Item := ⟨.boolean false⟩
instance : Inhabited Table := ⟨.mk false false []⟩

namespace Table

/-- A table without members that came about on the way to something below it. -/
def passing (dotted : Bool) : Table := .mk true dotted []

/-- The table came about on the way to something below it. -/
def implicit : Table → Bool
  | .mk i _ _ => i

/-- The table came about by a dotted key. -/
def dotted : Table → Bool
  | .mk _ d _ => d

/-- The members of a table, in the order in which they were put. -/
def members : Table → List (String × Item)
  | .mk _ _ ms => ms

/-- The item under a name. -/
def get? (t : Table) (name : String) : Option Item := t.members.lookup name

/-- Puts an item under a name, behind the others. One that was there goes. -/
def put (t : Table) (name : String) (item : Item) : Table :=
  .mk t.implicit t.dotted (t.members.filter (fun m => m.1 != name) ++ [(name, item)])

/-- Takes out the item under a name. -/
def erase (t : Table) (name : String) : Table :=
  .mk t.implicit t.dotted (t.members.filter fun m => m.1 != name)

/-- The same members as the content of a header. -/
def explicit (t : Table) : Table := .mk false false t.members

/-- Changes the table at the end of a path, making those missing on the way. A dotted path does
not lead through a table with a header of its own. Values end every path; braces do unless the
path itself stands between braces. -/
def update (dotted braces : Bool) (f : Table → Option Table) : List String → Table → Option Table
  | [], t => f t
  | name :: path, t =>
    match t.get? name with
    | none => (update dotted braces f path (passing dotted)).map fun u =>
        t.put name (if braces then .inline u else .table u)
    | some (.table u) =>
      if dotted && !u.implicit then none
      else (update dotted braces f path u).map fun u => t.put name (.table u)
    | some (.inline u) =>
      if !braces || (dotted && !u.implicit) then none
      else (update dotted braces f path u).map fun u => t.put name (.inline u)
    | some (.tables before last) =>
      (update dotted braces f path last).map fun u => t.put name (.tables before u)
    | some _ => none

/-- Puts a new item under a dotted key. -/
def insert (braces : Bool) (path : List String) (name : String) (item : Item) (t : Table) :
    Option Table :=
  update true braces (fun u =>
    if u.dotted = path.isEmpty || (u.get? name).isSome then none else some (u.put name item))
    path t

end Table

end GradeRelay.Toml

import GradeRelay.Toml.Scalar
import GradeRelay.Toml.Table
/-!
# Reading TOML

`Toml.read` reads a whole document of version 1.0 into a table, or refuses it. A byte order mark
may stand in front. Arrays and braces nest fewer than eighty deep, and a key has fewer than
eighty parts.
-/

namespace GradeRelay.Toml

open Text (Reader)
open Text.Reader

/-- The depth that arrays, braces and keys do not reach. -/
def limit : Nat := 80

/-- Drops a comment, up to the line end. -/
def skipComment : List Char → List Char
  | '#' :: rest => rest.dropWhile isPlain
  | cs => cs

/-- The rest of a line: white space and a comment, up to the line end or the end of the text. -/
def finishLine (cs : List Char) : Option (List Char) :=
  match skipComment (skipSpace cs) with
  | [] => some []
  | cs => lineEnd cs

/-- White space, a comment or a line end between the items of an array. -/
def readGap : Reader Unit
  | '#' :: rest => (lineEnd (skipComment ('#' :: rest))).map fun r => ((), r)
  | cs => readBreak cs

/-- Drops what may stand between the items of an array. -/
def skipGaps (cs : List Char) : List Char := (many readGap cs).2

/-- A character of a key without quotes. -/
def isBare (c : Char) : Bool := c.isAlphanum || c = '_' || c = '-'

/-- One part of a key, white space around it allowed. -/
def readKeyPart (cs : List Char) : Option (String × List Char) := do
  let cs := skipSpace cs
  let (name, rest) ←
    match cs with
    | '"' :: _ => readKeyString cs
    | '\x27' :: _ => readKeyString cs
    | cs =>
      let (w, rest) := takeWhile isBare cs
      if w.isEmpty then none else some (String.ofList w, rest)
  some (name, skipSpace rest)

/-- A key: its path and its last part. -/
def readKey (cs : List Char) : Option ((List String × String) × List Char) := do
  let (first, rest) ← readKeyPart cs
  let next : Reader String := fun
    | '.' :: rest => readKeyPart rest
    | _ => none
  let (more, rest) := many next rest
  let parts := first :: more
  if parts.length < limit then some ((parts.dropLast, parts.getLast?.getD first), rest) else none

/-- A character of a word that stands for a number, a point in time or a truth value. -/
def isWordChar (c : Char) : Bool :=
  c.isAlphanum || c = '_' || c = '-' || c = '+' || c = '.' || c = ':'

/-- A value that is neither a string nor a container. A date takes a time after a blank along. -/
def readWord (cs : List Char) : Option (Item × List Char) := do
  let (w, rest) := takeWhile isWordChar cs
  let (w, rest) :=
    match dropDate w, rest with
    | some [], ' ' :: c :: more =>
      if c.isDigit then
        let (time, rest) := takeWhile isWordChar (c :: more)
        (w ++ ' ' :: time, rest)
      else (w, rest)
    | _, _ => (w, rest)
  if w = "true".toList then some (.boolean true, rest)
  else if w = "false".toList then some (.boolean false, rest)
  else if isMoment w then some (.moment (String.ofList w), rest)
  else
    match integer? w, float? w with
    | some n, _ => some (.integer n, rest)
    | none, some x => some (.float x, rest)
    | none, none => none

/-- A value with containers nested fewer than `depth` deep. -/
def readValue : Nat → Reader Item
  | depth, cs =>
    match cs with
    | '"' :: _ => (readString cs).map fun (s, r) => (.string s, r)
    | '\x27' :: _ => (readString cs).map fun (s, r) => (.string s, r)
    | '[' :: rest =>
      match depth with
      | 0 => none
      | depth + 1 => do
        let item : Reader Item := fun cs => readValue depth (skipGaps cs)
        let next : Reader Item := fun cs =>
          match skipGaps cs with
          | ',' :: rest => item rest
          | _ => none
        let (items, rest) :=
          match item rest with
          | none => ([], rest)
          | some (first, rest) =>
            let (more, rest) := many next rest
            (first :: more, rest)
        let rest := skipGaps rest
        let rest := match items, rest with
          | _ :: _, ',' :: rest => skipGaps rest
          | _, rest => rest
        let ((), rest) ← char ']' rest
        some (.array items, rest)
    | '\x7b' :: rest =>
      match depth with
      | 0 => none
      | depth + 1 => do
        let member : Reader ((List String × String) × Item) := fun cs => do
          let (key, rest) ← readKey cs
          let ((), rest) ← char '=' rest
          let (item, rest) ← readValue depth (skipSpace rest)
          some ((key, item), skipSpace rest)
        let next : Reader ((List String × String) × Item) := fun
          | ',' :: rest => member rest
          | _ => none
        let (members, rest) :=
          match member rest with
          | none => ([], skipSpace rest)
          | some (first, rest) =>
            let (more, rest) := many next rest
            (first :: more, rest)
        let ((), rest) ← char '\x7d' rest
        let t ← members.foldlM (fun (t : Table) m => t.insert true m.1.1 m.1.2 m.2)
          (.mk false false [])
        some (.inline t, rest)
    | cs => readWord cs

/-! ## Documents -/

/-- A document while it is read: what is complete, and the table of the last header. -/
structure Draft where
  root : Table := .mk false false []
  current : Table := .mk false false []
  /-- The last header; none before the first. -/
  header : Option (List String × String) := none
  /-- The last header is one that may be repeated. -/
  repeated : Bool := false
  deriving Inhabited

namespace Draft

/-- The document with the table of the last header put in its place. -/
def close (d : Draft) : Option Table :=
  match d.header with
  | none => some d.current
  | some (path, name) =>
    d.root.update false false (fun t =>
      match t.get? name, d.repeated with
      | none, false => some (t.put name (.table d.current))
      | none, true => some (t.put name (.tables [] d.current))
      | some (.tables before last), true => some (t.put name (.tables (before ++ [last]) d.current))
      | _, _ => none) path

/-- Begins the table of a header that stands once. A table that so far only came about on the way
to others keeps its members. -/
def beginTable (d : Draft) (path : List String) (name : String) : Option Draft := do
  let root ← d.close
  let found ← reach root path
  match found.get? name with
  | none => some { root, current := .mk false false [], header := some (path, name) }
  | some (.table t) =>
    if t.implicit && !t.dotted then
      let root ← root.update false false (fun u => some (u.erase name)) path
      some { root, current := t.explicit, header := some (path, name) }
    else none
  | some _ => none
where
  /-- The table at the end of a path of headers. -/
  reach : Table → List String → Option Table
    | t, [] => some t
    | t, name :: path =>
      match t.get? name with
      | none => some (.passing false)
      | some (.table u) => reach u path
      | some (.tables _ last) => reach last path
      | some _ => none

/-- Begins a table of a header that may be repeated. -/
def beginRepeated (d : Draft) (path : List String) (name : String) : Option Draft := do
  let root ← d.close
  let found ← beginTable.reach root path
  match found.get? name with
  | none => some { root, header := some (path, name), repeated := true }
  | some (.tables _ _) => some { root, header := some (path, name), repeated := true }
  | some _ => none

end Draft

/-- A line of a document, as what it does to the draft. -/
def readExpression (cs : List Char) : Option ((Draft → Option Draft) × List Char) :=
  match cs with
  | [] => none
  | '#' :: _ => (finishLine cs).map fun r => (some, r)
  | '\n' :: rest => some (some, rest)
  | '\r' :: _ => (lineEnd cs).map fun r => (some, r)
  | '[' :: '[' :: rest => do
    let ((path, name), rest) ← readKey rest
    let rest ← word [']', ']'] rest
    let rest ← finishLine rest
    some (fun d => d.beginRepeated path name, rest)
  | '[' :: rest => do
    let ((path, name), rest) ← readKey rest
    let ((), rest) ← char ']' rest
    let rest ← finishLine rest
    some (fun d => d.beginTable path name, rest)
  | cs => do
    let ((path, name), rest) ← readKey cs
    let ((), rest) ← char '=' rest
    let (item, rest) ← readValue (limit - 1) (skipSpace rest)
    let rest ← finishLine rest
    some (fun d => (d.current.insert false path name item).map fun t => { d with current := t },
      rest)

/-- The table of a whole document, if it is well-formed. -/
def read (text : String) : Option Table := do
  let cs := text.toList
  let cs := match cs with
    | '\ufeff' :: rest => rest
    | cs => cs
  let (lines, rest) := many (fun cs => readExpression (skipSpace cs)) cs
  if (skipSpace rest).isEmpty then
    let draft ← lines.foldlM (fun d f => f d) ({} : Draft)
    draft.close
  else none

end GradeRelay.Toml

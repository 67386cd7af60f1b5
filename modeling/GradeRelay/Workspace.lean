import GradeRelay.Console
import GradeRelay.Place
import GradeRelay.Store.Location
/-!
# Workspaces

A directory in memory, on which runs of the program follow one another: its files, and what the
current run is given and prints. `Workspace.run` is one run.

A text is looked for step by step, each step from a directory that is there. A store is looked for
where its path leads by the names alone, as long as no file stands in the way. Beside the file of a
store there may be a journal and a log that an unfinished write has left; opening the store clears
the journal, and the log goes when the run ends.

* `file?_putFile`: what is put at a place is found there.
-/

namespace GradeRelay

/-- What a file holds. -/
inductive FileContent where
  | text (s : String)
  | store (s : Store)
  deriving Inhabited

namespace FileContent

/-- The content counts as empty where a store is expected: it has one byte at most. -/
def isBlank : FileContent → Bool
  | .text s => s.utf8ByteSize ≤ 1
  | .store _ => false

/-- A text without characters. A store is never empty. -/
def isEmpty : FileContent → Bool
  | .text s => s.isEmpty
  | .store _ => false

/-- As a journal, the content asks for a write to be undone: it does not begin with NUL. -/
def isHot : FileContent → Bool
  | .text s => s.toList.head?.any (· != '\x00')
  | .store _ => true

end FileContent

/-- A directory with what one run is given and prints. -/
structure Workspace where
  files : List (Place × FileContent) := []
  input : String := ""
  environment : List (String × String) := []
  now : Timestamp := 0
  output : String := ""
  /-- The files that go when the run ends. -/
  leftovers : List Place := []
  deriving Inhabited

namespace Workspace

/-! ## Files and directories -/

/-- The bytes that a name has at most. -/
def nameLimit : Nat := 255

/-- The bytes that the path of a text does not reach. -/
def pathLimit : Nat := 4096

/-- The bytes that the path of a store does not reach, the directory of the run included. -/
def storePathLimit : Nat := 513

/-- The bytes that the path of the directory of the run is taken to have. -/
def homeLength : Nat := 16

/-- What the name of a rollback journal ends in. -/
def journalEnding : String := "-journal"

/-- What the name of a write-ahead log ends in. -/
def logEnding : String := "-wal"

/-- A place that a path from the root leads to. -/
def systemPlace (names : List String) : Place := { fromRoot := true, names }

/-- The directories that are there from the start. -/
def systemDirectories : List Place :=
  (["bin", "dev", "etc", "home", "lib", "proc", "root", "run", "sbin", "sys", "tmp", "usr",
      "var"].map fun name => systemPlace [name])
    ++ [systemPlace ["dev", "fd"], systemPlace ["proc", "self"], systemPlace ["proc", "self", "fd"]]

/-- The file that is always empty. -/
def emptyFile : Place := systemPlace ["dev", "null"]

/-- Standard input as a file. -/
def inputFiles : List Place :=
  [systemPlace ["dev", "stdin"], systemPlace ["dev", "fd", "0"],
    systemPlace ["proc", "self", "fd", "0"]]

/-- What the file at a place holds, if there is one. -/
def file? (w : Workspace) (p : Place) : Option FileContent := w.files.lookup p

/-- Removes the file at a place. -/
def dropFile (w : Workspace) (p : Place) : Workspace :=
  { w with files := w.files.filter fun f => f.1 != p }

/-- Writes the file at a place. -/
def putFile (w : Workspace) (p : Place) (content : FileContent) : Workspace :=
  { w with files := (p, content) :: (w.dropFile p).files }

@[simp]
theorem file?_putFile (w : Workspace) (p : Place) (content : FileContent) :
    (w.putFile p content).file? p = some content := by
  simp [file?, putFile]

/-- A place is a directory: one on the way to the run's own or to a file, or one of the system. -/
def isDirectory (w : Workspace) (p : Place) : Bool :=
  p.names.isEmpty || systemDirectories.contains p || w.files.any fun f => f.1.isBelow p

/-! ## Texts -/

/-- The place that a path leads to, step by step, each from a directory that is there. -/
def walk? (w : Workspace) (path : String) : Option Place :=
  if path.isEmpty || pathLimit ≤ path.utf8ByteSize then none
  else
    (Place.steps path).foldlM
      (fun p name =>
        if w.isDirectory p && name.utf8ByteSize ≤ nameLimit then some (p.enter name) else none)
      (Place.start path)

/-- What is found at a path where a text is expected. -/
def document (w : Workspace) (path : String) : Document :=
  match w.walk? path with
  | none => .absent
  | some p =>
    match w.file? p with
    | some (.text s) => .text s
    | some (.store _) => .unreadable
    | none =>
      if w.isDirectory p then .unreadable
      else if p = emptyFile then .text ""
      else if inputFiles.contains p then .text w.input
      else .absent

/-- Reads the text at a path. Standard input can be read once. -/
def readDocument (path : String) (w : Workspace) : Document × Workspace :=
  (w.document path,
    if (w.walk? path).any inputFiles.contains then { w with input := "" } else w)

/-- Reads the input to its end. -/
def readInput (w : Workspace) : Document × Workspace :=
  (.text w.input, { w with input := "" })

/-! ## Stores -/

/-- The bytes of the path to a place, from the root on. -/
def pathLength (p : Place) : Nat :=
  p.names.foldl (fun n name => n + name.utf8ByteSize + 1) (if p.fromRoot then 0 else homeLength)

/-- The place that the path of a store leads to, by the names alone, none of them below a file. -/
def storePlace? (w : Workspace) (path : String) : Option Place := do
  let p ← (Place.steps path).foldlM
    (fun p name =>
      let q := p.enter name
      if nameLimit < name.utf8ByteSize || w.files.any (fun f => q.isBelow f.1)
          || storePathLimit ≤ pathLength q + 1 then none
      else some q)
    (Place.start path)
  if p.fromRoot && p.names.isEmpty || storePathLimit ≤ pathLength p + journalEnding.length then none
  else some p

/-- A new store at a place, if its journal can be named. It clears what was left beside it. -/
def makeStore (w : Workspace) (p : Place) : Option OpenStore × Workspace :=
  let journal := p.beside journalEnding
  if journal.names.getLast?.any fun n => nameLimit < n.utf8ByteSize then (none, w)
  else
    (some { store := {} },
      ((w.dropFile journal).dropFile (p.beside logEnding)).putFile p (.store {}))

/-- Opens what a file holds as a store. A text of more than one byte is none. A journal that asks
for an undoing is carried out, which takes the right to write. -/
def openContent (w : Workspace) (p : Place) (content : FileContent) (readOnly fixed : Bool) :
    Option OpenStore × Workspace :=
  let opened := match content with
    | .store s => some { store := s, readOnly }
    | .text _ => none
  let journal := p.beside journalEnding
  let log := p.beside logEnding
  let isHot := (w.file? journal).any FileContent.isHot
  if fixed then (opened, w)
  else if content.isBlank then
    if readOnly then (none, w) else makeStore w p
  else if readOnly then (if isHot then none else opened, w)
  else
    let w := if isHot then w.dropFile journal else w
    (opened, if (w.file? log).any (fun c => !c.isEmpty) then
      { w with leftovers := log :: w.leftovers } else w)

/-- A place is a file of the machine's own, which no store can be kept in. -/
def isSpecial (p : Place) : Bool := p = emptyFile || inputFiles.contains p

/-- Opens the store in the file at a place, and makes the file where that is asked for. -/
def openFile (w : Workspace) (p : Place) (access : Location.Access) (fixed : Bool) :
    Option OpenStore × Workspace :=
  let readOnly := access = .read || fixed
  if w.isDirectory p || isSpecial p then (none, w)
  else
    match w.file? p with
    | some content => w.openContent p content readOnly fixed
    | none =>
      if access = .create && w.isDirectory p.up then
        (w.putFile p (.text "")).openContent p (.text "") readOnly fixed
      else (none, w)

/-- Opens the store that a text tells of. -/
def openStore (text : String) (w : Workspace) : Option OpenStore × Workspace :=
  match Location.ofText? text with
  | none => (none, w)
  | some .passing => (some { store := {} }, w)
  | some (.file path access fixed) =>
    match w.storePlace? path with
    | none => (none, w)
    | some p => w.openFile p access fixed

/-- Keeps a store where a text says. A passing one is not kept. -/
def keepStore (text : String) (s : Store) (w : Workspace) : Workspace :=
  match Location.ofText? text with
  | some (.file path _ _) =>
    match w.storePlace? path with
    | none => w
    | some p => w.putFile p (.store s)
  | _ => w

/-! ## Runs -/

/-- The machine that a workspace makes. -/
def host : Host (StateM Workspace) where
  document path := modifyGet (readDocument path)
  input := modifyGet readInput
  environment name := return (← get).environment.lookup name
  openStore text := modifyGet (openStore text)
  keepStore text s := modify (keepStore text s)
  now := return (← get).now
  print text := modify fun w => { w with output := w.output ++ text ++ "\n" }
  remark _ := pure ()

/-- The workspace after a run. -/
def close (w : Workspace) : Workspace :=
  { w.leftovers.foldl dropFile w with leftovers := [] }

/-- One run in a workspace: the exit code and the workspace afterwards. -/
def run (w : Workspace) (args : List String) : UInt32 × Workspace :=
  let (code, w) := Console.run host args w
  (code, w.close)

end Workspace

end GradeRelay

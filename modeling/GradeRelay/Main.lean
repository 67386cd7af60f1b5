import GradeRelay.Console
import GradeRelay.Place
import GradeRelay.Store.Archive
import GradeRelay.Store.Location
import Std.Time.DateTime.Timestamp
/-!
# The program

The command line over the files, the environment and the clock of the machine.
-/

namespace GradeRelay.Program

/-- All bytes that come in on a stream. -/
partial def drain (input : IO.FS.Stream) (bytes : ByteArray) : IO ByteArray := do
  let more ← input.read 65536
  if more.isEmpty then return bytes else drain input (bytes ++ more)

/-- What is found at a path. A path through something that is no directory leads nowhere. -/
def document (path : String) : IO Document := do
  try
    return .ofBytes (← IO.FS.readBinFile path)
  catch
    | .noFileOrDirectory .. => return .absent
    | .inappropriateType (some _) .. => return .absent
    | .invalidArgument .. => return .absent
    | _ => return .unreadable

/-- Keeps the store that a text tells of; a passing one is not kept. -/
def keepStore (text : String) (s : Store) : IO Unit :=
  match Location.ofText? text with
  | some (.file path _ _) => IO.FS.writeFile (Place.ofPath path).path (Archive.write s)
  | _ => pure ()

/-- Begins a store that a text tells of, if it can be kept. -/
def beginStore (text : String) : IO (Option OpenStore) := do
  try
    keepStore text {}
    return some { store := {} }
  catch _ => return none

/-- Opens the store that a text tells of, and begins one where nothing is and one may be made. -/
def openStore (text : String) : IO (Option OpenStore) := do
  match Location.ofText? text with
  | none => return none
  | some .passing => return some { store := {} }
  | some (.file path access fixed) =>
    let readOnly := access = .read || fixed
    match ← document (Place.ofPath path).path with
    | .text t =>
      if t.utf8ByteSize ≤ 1 && !readOnly then beginStore text
      else return (Archive.read? t).map fun store => { store, readOnly }
    | .unreadable => return none
    | .absent => if access = .create && !readOnly then beginStore text else return none

/-- The machine that the program runs on. -/
def host : Host IO where
  document := document
  input := return .ofBytes (← drain (← IO.getStdin) .empty)
  environment name := IO.getEnv name
  openStore := openStore
  keepStore := keepStore
  now := return (← Std.Time.Timestamp.now).toSecondsSinceUnixEpoch.val
  print := IO.println
  remark := IO.eprintln

end GradeRelay.Program

/-- The program. -/
def main (args : List String) : IO UInt32 :=
  GradeRelay.Console.run GradeRelay.Program.host args

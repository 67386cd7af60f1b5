import GradeRelay.Text.Pieces
import GradeRelay.Text.Reader
/-!
# Where a store is kept

The text that tells where a store is kept is a path, or an address that begins with `file:`. In an
address a percent sign and two hexadecimal digits stand for a byte, a number sign ends it, and
after a question mark come options, of which `mode`, `cache`, `vfs` and `immutable` count. A store
without a name, or in memory, is gone with the run.

* `ofText?_path`: a text without the mark of an address is taken for a path as it stands.
-/

namespace GradeRelay

open Text (pieces)
open Text.Reader (hexValue?)

namespace Location

/-- What may be done to the file of a store. -/
inductive Access where
  | read
  | write
  /-- The file may be made. -/
  | create
  deriving DecidableEq, Repr, Inhabited

end Location

/-- Where a store is kept. -/
inductive Location where
  /-- Nowhere beyond the run. -/
  | passing
  /-- In a file. A fixed one is taken not to change, and is not written. -/
  | file (path : String) (access : Location.Access) (fixed : Bool)
  deriving DecidableEq, Repr, Inhabited

namespace Location

/-! ## Addresses -/

/-- The bytes of a text in which a percent sign and two hexadecimal digits stand for one. -/
def bytes : List Char → List UInt8
  | [] => []
  | '%' :: a :: b :: rest =>
    match hexValue? a, hexValue? b with
    | some x, some y => UInt8.ofNat (16 * x + y) :: bytes rest
    | _, _ => 0x25 :: bytes (a :: b :: rest)
  | c :: rest => String.utf8EncodeChar c ++ bytes rest

/-- The text that a part of an address stands for, up to a NUL. Bytes that are no text are taken
for the characters of their numbers. -/
def decode (cs : List Char) : String :=
  let bs := (bytes cs).takeWhile (· != 0)
  (String.fromUTF8? ⟨bs.toArray⟩).getD (String.ofList (bs.map fun b => Char.ofNat b.toNat))

/-- A name, and what it is set to after an equality sign. -/
def option (cs : List Char) : String × String :=
  (decode (cs.takeWhile (· != '=')), decode ((cs.dropWhile (· != '=')).drop 1))

/-- The options between ampersands; one without a name is none. -/
def options (query : List Char) : List (String × String) :=
  ((pieces '&' query).map option).filter fun o => !o.1.isEmpty

/-- What follows the host of an address, which has to be this machine. -/
def dropHost? : List Char → Option (List Char)
  | '/' :: '/' :: rest =>
    let host := rest.takeWhile (· != '/')
    if host.isEmpty || host = "localhost".toList then some (rest.dropWhile (· != '/')) else none
  | cs => some cs

/-! ## Options -/

/-- How an address has a store opened. -/
inductive Mode where
  | file (access : Access)
  | memory
  deriving DecidableEq, Repr, Inhabited

/-- A mode by its name. -/
def Mode.ofName? (name : String) : Option Mode :=
  if name = "ro" then some (.file .read)
  else if name = "rw" then some (.file .write)
  else if name = "rwc" then some (.file .create)
  else if name = "memory" then some .memory
  else none

/-- A mode may follow another one that permits as much; memory permits and asks for nothing. -/
def Mode.permits : Mode → Mode → Bool
  | .file .read, .file a => a = .read
  | .file .write, .file a => a != .create
  | _, _ => true

/-- The mode after an option; none where the option is refused. -/
def Mode.step (m : Mode) (o : String × String) : Option Mode :=
  if o.1 = "mode" then (Mode.ofName? o.2).filter m.permits
  else if o.1 = "cache" && !(o.2 = "shared" || o.2 = "private") then none
  else some m

/-- The systems of files that can be asked for by name, the one in memory aside. -/
def systems : List String := ["unix", "unix-none", "unix-dotfile", "unix-excl"]

/-- The word says yes. -/
def isYes (word : String) : Bool :=
  let w := word.toList.map Char.toLower
  match w with
  | c :: _ =>
    if c.isDigit then
      (w.takeWhile Char.isDigit).foldl (fun n c => 10 * n + (c.toNat - 48)) 0 % 256 != 0
    else w = "on".toList || w = "yes".toList || w = "true".toList
  | [] => false

/-! ## Locations -/

/-- A path opened in a mode. An empty one names nothing, and nothing that passes can be read only,
for there is nothing in it. -/
def ofPath? (path : String) (mode : Mode) (fixed : Bool) : Option Location :=
  match mode with
  | .memory => some .passing
  | .file access =>
    if path.isEmpty || path = ":memory:" then
      if access = .read then none else some .passing
    else some (.file path access fixed)

/-- What an address says after its mark. -/
def ofAddress? (cs : List Char) : Option Location := do
  let cs ← dropHost? cs
  let cs := cs.takeWhile (· != '#')
  let path := decode (cs.takeWhile (· != '?'))
  let os := options ((cs.dropWhile (· != '?')).drop 1)
  let mode ← os.foldlM Mode.step (.file .create)
  let system := ((os.filter fun o => o.1 = "vfs").getLast?.map (·.2)).getD "unix"
  let fixed := (os.lookup "immutable").any isYes
  if system = "memdb" then (if mode = .file .read then none else some .passing)
  else if systems.contains system then ofPath? path mode fixed
  else none

/-- What a text begins with that is an address and no path. -/
def mark : List Char := "file:".toList

/-- Where a text says that a store is kept. No path holds a NUL. -/
def ofText? (text : String) : Option Location :=
  let cs := text.toList
  if cs.contains '\x00' then none
  else if mark.isPrefixOf cs then ofAddress? (cs.drop mark.length)
  else ofPath? text (.file .create) false

theorem ofText?_path {text : String} (h : ¬ mark <+: text.toList) (h0 : '\x00' ∉ text.toList)
    (h1 : text ≠ "") (h2 : text ≠ ":memory:") :
    ofText? text = some (.file text .create false) := by
  have hp : mark.isPrefixOf text.toList = false := by
    simpa [← List.isPrefixOf_iff_prefix] using h
  simp [ofText?, ofPath?, h0, h1, h2, hp]

end Location

end GradeRelay

import GradeRelay.Fault
import GradeRelay.Json.Parser
/-!
# Documents

What a path turns out to hold when a text is expected there, and the raw event that a document
describes. Events nest at most 127 deep.
-/

namespace GradeRelay

/-- What is found where a text is expected. -/
inductive Document where
  | absent
  /-- A directory, or bytes that are no text. -/
  | unreadable
  | text (s : String)
  deriving DecidableEq, Repr, Inhabited

namespace Document

/-- The document that bytes make up: a text if they are well-formed UTF-8. -/
def ofBytes (bytes : ByteArray) : Document :=
  match String.fromUTF8? bytes with
  | some s => .text s
  | none => .unreadable

/-- The depth that an event's containers may reach. -/
def eventDepth : Nat := 127

/-- The raw event in a document, which has to be there. -/
def event : Document → Except Fault Json
  | .text s =>
    match Json.read eventDepth s with
    | some raw => .ok raw
    | none => .error .json
  | _ => .error .unreadable

end Document

end GradeRelay

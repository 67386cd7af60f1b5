import GradeRelay.Decimal.Shortest
import GradeRelay.Json.Basic
/-!
# Writing JSON

`Json.compact` writes a value without any white space, `Json.pretty` with one member or item a
line, two spaces deeper for each level, and an empty container as its two brackets. A quote, a
backslash and the control characters are escaped, all else stands for itself. An infinity or a
NaN is written as `null`.
-/

namespace GradeRelay.Json

/-- A control character as four hexadecimal digits. -/
def controlEscape (c : Char) : List Char :=
  let ds := Nat.toDigits 16 c.toNat
  '\\' :: 'u' :: (List.replicate (4 - ds.length) '0' ++ ds)

/-- How one character is written inside a string. -/
def escapeChar (c : Char) : List Char :=
  if c = '"' then ['\\', '"']
  else if c = '\\' then ['\\', '\\']
  else if c = '\n' then ['\\', 'n']
  else if c = '\r' then ['\\', 'r']
  else if c = '\t' then ['\\', 't']
  else if c = '\x08' then ['\\', 'b']
  else if c = '\x0c' then ['\\', 'f']
  else if c.toNat < 0x20 then controlEscape c
  else [c]

/-- A text between quotes, with its escapes. -/
def quoteText (s : String) : String :=
  String.ofList ('"' :: (s.toList.flatMap escapeChar ++ ['"']))

/-- The text of a number. What has none is written as null. -/
def numberText : JsonNumber → String
  | .int n => toString n
  | .float x => (Decimal.text? x).getD "null"

mutual

/-- A value on one line, without white space. -/
def compact : Json → String
  | .null => "null"
  | .bool b => if b then "true" else "false"
  | .number n => numberText n
  | .string s => quoteText s
  | .array items => "[" ++ ",".intercalate (compactItems items) ++ "]"
  | .object members => "\x7b" ++ ",".intercalate (compactMembers members) ++ "\x7d"

/-- The items of an array, each without white space. -/
def compactItems : List Json → List String
  | [] => []
  | j :: rest => compact j :: compactItems rest

/-- The members of an object, each without white space. -/
def compactMembers : List (String × Json) → List String
  | [] => []
  | (name, value) :: rest => (quoteText name ++ ":" ++ compact value) :: compactMembers rest

end

/-- A line end and the margin of a level. -/
def lineBreak (level : Nat) : String :=
  "\n" ++ String.ofList (List.replicate (2 * level) ' ')

/-- The parts of a container, each on a line of its own. -/
def block (level : Nat) (opening closing : String) (parts : List String) : String :=
  if parts.isEmpty then opening ++ closing
  else
    opening ++ lineBreak (level + 1) ++ ("," ++ lineBreak (level + 1)).intercalate parts
      ++ lineBreak level ++ closing

mutual

/-- A value over several lines, its first line already at the given level. -/
def prettyAt : Json → Nat → String
  | .null, _ => "null"
  | .bool b, _ => if b then "true" else "false"
  | .number n, _ => numberText n
  | .string s, _ => quoteText s
  | .array items, level => block level "[" "]" (prettyItems items (level + 1))
  | .object members, level => block level "\x7b" "\x7d" (prettyMembers members (level + 1))

/-- The items of an array, each over several lines. -/
def prettyItems : List Json → Nat → List String
  | [], _ => []
  | j :: rest, level => prettyAt j level :: prettyItems rest level

/-- The members of an object, each over several lines. -/
def prettyMembers : List (String × Json) → Nat → List String
  | [], _ => []
  | (name, value) :: rest, level =>
    (quoteText name ++ ": " ++ prettyAt value level) :: prettyMembers rest level

end

/-- A value over several lines. -/
def pretty (j : Json) : String := prettyAt j 0

end GradeRelay.Json

import GradeRelay.Decimal.Nearest
import GradeRelay.Json.Basic
import GradeRelay.Text.Reader
/-!
# Reading JSON

`Json.read` reads one value with white space around it and nothing else. Containers nest up to a
given depth. Of two members with one name the later counts. An integer literal outside the range
of `JsonNumber.int`, and `-0`, are read as doubles; a literal too large for a double is refused,
and so are a surrogate escape without its partner and an unescaped control character.
-/

namespace GradeRelay.Json

open Text (Reader)
open Text.Reader

/-- The four characters that may stand between tokens. -/
def isSpace (c : Char) : Bool := c = ' ' || c = '\t' || c = '\n' || c = '\r'

/-- Drops what may stand between tokens. -/
def skipSpace (cs : List Char) : List Char := cs.dropWhile isSpace

/-- The rest of a `\u` escape: one scalar value from one or two groups of four digits. -/
def readUnicode (cs : List Char) : Option (Char × List Char) := do
  let (high, rest) ← hex 4 cs
  if 0xd800 ≤ high && high < 0xdc00 then
    let rest ← word ['\\', 'u'] rest
    let (low, rest) ← hex 4 rest
    if 0xdc00 ≤ low && low < 0xe000 then
      some (Char.ofNat (0x10000 + (high - 0xd800) * 0x400 + (low - 0xdc00)), rest)
    else none
  else if 0xdc00 ≤ high && high < 0xe000 then none
  else some (Char.ofNat high, rest)

/-- One character of a string, escaped or not. -/
def readPiece : Reader Char
  | '\\' :: c :: rest =>
    if c = '"' || c = '\\' || c = '/' then some (c, rest)
    else if c = 'b' then some ('\x08', rest)
    else if c = 'f' then some ('\x0c', rest)
    else if c = 'n' then some ('\n', rest)
    else if c = 'r' then some ('\r', rest)
    else if c = 't' then some ('\t', rest)
    else if c = 'u' then readUnicode rest
    else none
  | c :: rest => if c = '"' || c = '\\' || c.toNat < 0x20 then none else some (c, rest)
  | [] => none

/-- A string between its quotes. -/
def readString : Reader String
  | '"' :: cs =>
    let (body, rest) := many readPiece cs
    match rest with
    | '"' :: rest => some (String.ofList body, rest)
    | _ => none
  | _ => none

/-- The digits after a point, if there is one. -/
def readFraction : List Char → Option (List Char × List Char)
  | '.' :: cs =>
    let (ds, rest) := takeWhile Char.isDigit cs
    if ds.isEmpty then none else some (ds, rest)
  | cs => some ([], cs)

/-- The value after an exponent mark, if there is one. -/
def readExponent (cs : List Char) : Option (Option Int × List Char) :=
  match cs with
  | c :: rest =>
    if c = 'e' || c = 'E' then
      let (negative, rest) := match rest with
        | '-' :: r => (true, r)
        | '+' :: r => (false, r)
        | r => (false, r)
      let (ds, rest) := takeWhile Char.isDigit rest
      if ds.isEmpty then none
      else
        let e : Int := Nat.ofDigitChars 10 ds 0
        some (some (if negative then -e else e), rest)
    else some (none, cs)
  | [] => some (none, cs)

/-- A double from its decimal parts, unless it is too large. -/
def finite? (negative : Bool) (m : Nat) (e : Int) : Option JsonNumber :=
  if Decimal.nearestBits m e < Decimal.infinityBits then
    some (.float (Decimal.nearest negative m e))
  else none

/-- A number: a whole part without leading zeros, a fraction and an exponent. -/
def readNumber (cs : List Char) : Option (JsonNumber × List Char) := do
  let (negative, cs) := match cs with
    | '-' :: r => (true, r)
    | r => (false, r)
  let (whole, rest) := takeWhile Char.isDigit cs
  if whole.isEmpty || (1 < whole.length && whole.head? = some '0') then none
  else
    let (fraction, rest) ← readFraction rest
    let (exponent, rest) ← readExponent rest
    let m := Nat.ofDigitChars 10 (whole ++ fraction) 0
    if fraction.isEmpty && exponent.isNone then
      let n : Int := if negative then -(m : Int) else m
      if (negative && m = 0) || n < -9223372036854775808 || 18446744073709551615 < n then
        let x ← finite? negative m 0
        some (x, rest)
      else some (.int n, rest)
    else
      let x ← finite? negative m (exponent.getD 0 - fraction.length)
      some (x, rest)

/-- Reads items between separators: one item, then a comma before each other one. -/
def readItems {α : Type} (item : Reader α) (cs : List Char) : Option (List α × List Char) := do
  let (first, rest) ← item cs
  let next : Reader α := fun cs =>
    match skipSpace cs with
    | ',' :: rest => item rest
    | _ => none
  let (more, rest) := many next rest
  some (first :: more, rest)

/-- A value with containers nested at most `depth` deep, white space in front allowed. -/
def readValue : Nat → Reader Json
  | depth, cs =>
    match skipSpace cs with
    | '"' :: rest => (readString ('"' :: rest)).map fun (s, r) => (.string s, r)
    | '[' :: rest =>
      match depth with
      | 0 => none
      | depth + 1 =>
        match skipSpace rest with
        | ']' :: rest => some (.array [], rest)
        | _ => do
          let (items, rest) ← readItems (readValue depth) rest
          let ((), rest) ← char ']' (skipSpace rest)
          some (.array items, rest)
    | '\x7b' :: rest =>
      match depth with
      | 0 => none
      | depth + 1 =>
        match skipSpace rest with
        | '\x7d' :: rest => some (.object [], rest)
        | _ => do
          let member : Reader (String × Json) := fun cs => do
            let (name, rest) ← readString (skipSpace cs)
            let ((), rest) ← char ':' (skipSpace rest)
            let (value, rest) ← readValue depth rest
            some ((name, value), rest)
          let (members, rest) ← readItems member rest
          let ((), rest) ← char '\x7d' (skipSpace rest)
          some (.object (members.foldl (fun acc m => insertMember m.1 m.2 acc) []), rest)
    | cs =>
      match word "null".toList cs, word "true".toList cs, word "false".toList cs with
      | some rest, _, _ => some (.null, rest)
      | _, some rest, _ => some (.bool true, rest)
      | _, _, some rest => some (.bool false, rest)
      | none, none, none => (readNumber cs).map fun (n, r) => (.number n, r)

/-- The value that a text holds, with nothing but white space around it. -/
def read (depth : Nat) (text : String) : Option Json :=
  match readValue depth text.toList with
  | some (value, rest) => if (skipSpace rest).isEmpty then some value else none
  | none => none

end GradeRelay.Json

import GradeRelay.Decimal.Nearest
import GradeRelay.Text.Reader
/-!
# TOML strings, numbers and points in time

The four kinds of strings, and the words that stand for integers, floats, dates and times, as
version 1.0 of the format has them. Integers fit 64 signed bits; a float above the largest double
is refused; dates exist in the calendar.
-/

namespace GradeRelay.Toml

open Text (Reader)
open Text.Reader

/-- White space within a line. -/
def isSpace (c : Char) : Bool := c = ' ' || c = '\t'

/-- Drops white space within a line. -/
def skipSpace (cs : List Char) : List Char := cs.dropWhile isSpace

/-- A line end. -/
def lineEnd (cs : List Char) : Option (List Char) :=
  match cs with
  | '\n' :: rest => some rest
  | '\r' :: '\n' :: rest => some rest
  | _ => none

/-- A character that may stand unescaped in a comment or a string. -/
def isPlain (c : Char) : Bool :=
  c = '\t' || (0x20 ≤ c.toNat && c.toNat ≤ 0x7e) || 0x80 ≤ c.toNat

/-! ## Strings -/

/-- A code point that is a character. -/
def scalar? (n : Nat) : Option Char :=
  if n < 0xd800 || (0xe000 ≤ n && n < 0x110000) then some (Char.ofNat n) else none

/-- What follows the backslash of an escape. -/
def readEscape : Reader Char
  | [] => none
  | c :: rest =>
    if c = '"' || c = '\\' then some (c, rest)
    else if c = 'b' then some ('\x08', rest)
    else if c = 't' then some ('\t', rest)
    else if c = 'n' then some ('\n', rest)
    else if c = 'f' then some ('\x0c', rest)
    else if c = 'r' then some ('\r', rest)
    else if c = 'u' || c = 'U' then do
      let (n, rest) ← hex (if c = 'u' then 4 else 8) rest
      let d ← scalar? n
      some (d, rest)
    else none

/-- One character of a string between double quotes. -/
def readBasicPiece : Reader Char
  | '\\' :: rest => readEscape rest
  | c :: rest => if isPlain c && c != '"' then some (c, rest) else none
  | [] => none

/-- One character of a string between single quotes. -/
def readLiteralPiece : Reader Char
  | c :: rest => if isPlain c && c != '\x27' then some (c, rest) else none
  | [] => none

/-- A string of pieces up to a closing quote. -/
def readLine (quote : Char) (piece : Reader Char) (cs : List Char) :
    Option (String × List Char) := do
  let (body, rest) := many piece cs
  let ((), rest) ← char quote rest
  some (String.ofList body, rest)

/-- A character of white space, or a line end. -/
def readBreak : Reader Unit
  | [] => none
  | c :: rest =>
    if isSpace c then some ((), rest) else (lineEnd (c :: rest)).map fun r => ((), r)

/-- Drops line ends and white space. -/
def skipLines (cs : List Char) : List Char := (many readBreak cs).2

/-- Up to two quotes that do not close a string of several lines. -/
def readInnerQuotes (quote : Char) (cs : List Char) : Option (List Char × List Char) :=
  let n := (cs.takeWhile (· = quote)).length
  if n = 1 || n = 2 then some (cs.take n, cs.drop n) else none

/-- A piece of a string of several lines between double quotes. A backslash at the end of a line
swallows the white space up to the next visible character. -/
def readBasicLines (cs : List Char) : Option (List Char × List Char) :=
  match lineEnd cs with
  | some rest => some (['\n'], rest)
  | none =>
    match cs with
    | '\\' :: rest =>
      match lineEnd (skipSpace rest) with
      | some rest => some ([], skipLines rest)
      | none => (readEscape rest).map fun (c, r) => ([c], r)
    | '"' :: _ => readInnerQuotes '"' cs
    | c :: rest => if isPlain c then some ([c], rest) else none
    | [] => none

/-- A piece of a string of several lines between single quotes. -/
def readLiteralLines (cs : List Char) : Option (List Char × List Char) :=
  match lineEnd cs with
  | some rest => some (['\n'], rest)
  | none =>
    match cs with
    | '\x27' :: _ => readInnerQuotes '\x27' cs
    | c :: rest => if isPlain c then some ([c], rest) else none
    | [] => none

/-- A string of several lines, after its opening quotes. A line end right there does not count,
and up to two quotes may stand right before the closing ones. -/
def readLines (quote : Char) (piece : Reader (List Char)) (cs : List Char) :
    Option (String × List Char) :=
  let (body, rest) := many piece ((lineEnd cs).getD cs)
  let n := (rest.takeWhile (· = quote)).length
  if n < 3 then none
  else
    let inner := min (n - 3) 2
    some (String.ofList (body.flatten ++ List.replicate inner quote), rest.drop (inner + 3))

/-- A string of one line, between quotes of either kind. -/
def readKeyString : Reader String
  | '"' :: rest => readLine '"' readBasicPiece rest
  | '\x27' :: rest => readLine '\x27' readLiteralPiece rest
  | _ => none

/-- A string of one line or of several. -/
def readString (cs : List Char) : Option (String × List Char) :=
  match cs with
  | '"' :: '"' :: '"' :: rest => readLines '"' readBasicLines rest
  | '\x27' :: '\x27' :: '\x27' :: rest => readLines '\x27' readLiteralLines rest
  | cs => readKeyString cs

/-! ## Numbers -/

/-- Digits of a class, single underscores allowed between two of them; none if they are not. -/
def digits? (p : Char → Bool) (cs : List Char) : Option (List Char) :=
  let spaced := fun (a b : Char) => a = '_' && (b = '_' || !p b)
  let rec check : List Char → Bool
    | [] => true
    | [c] => p c
    | a :: b :: rest => (p a || a = '_') && !spaced a b && check (b :: rest)
  match cs with
  | [] => none
  | c :: _ => if p c && check cs then some (cs.filter (· != '_')) else none

/-- Decimal digits without a needless zero in front. -/
def decimal? (cs : List Char) : Option (List Char) :=
  (digits? Char.isDigit cs).filter fun ds => ds.length = 1 || ds.head? != some '0'

/-- A sign and the rest. -/
def splitSign : List Char → Bool × List Char
  | '-' :: rest => (true, rest)
  | '+' :: rest => (false, rest)
  | cs => (false, cs)

/-- A whole number in a base. -/
def ofBase (base : Nat) (ds : List Char) : Int :=
  ds.foldl (fun acc c => base * acc + ((hexValue? c).getD 0 : Nat)) 0

/-- An integer in range. -/
def fits (n : Int) : Option Int :=
  if -9223372036854775808 ≤ n ∧ n ≤ 9223372036854775807 then some n else none

/-- The integer that a word stands for. -/
def integer? (w : List Char) : Option Int :=
  match w with
  | '0' :: 'x' :: ds =>
    (digits? (fun c => (hexValue? c).isSome) ds).bind fun ds => fits (ofBase 16 ds)
  | '0' :: 'o' :: ds =>
    (digits? (fun c => '0' ≤ c && c ≤ '7') ds).bind fun ds => fits (ofBase 8 ds)
  | '0' :: 'b' :: ds =>
    (digits? (fun c => c = '0' || c = '1') ds).bind fun ds => fits (ofBase 2 ds)
  | w =>
    let (negative, ds) := splitSign w
    (decimal? ds).bind fun ds =>
      let n := ofBase 10 ds
      fits (if negative then -n else n)

/-- Splits a word at the first character of a class, which is dropped. -/
def splitAtFirst (p : Char → Bool) (w : List Char) : List Char × Option (List Char) :=
  match w.dropWhile fun c => !p c with
  | [] => (w, none)
  | _ :: rest => (w.takeWhile fun c => !p c, some rest)

/-- The float that a word stands for. -/
def float? (w : List Char) : Option Float := do
  let (negative, body) := splitSign w
  if body = "inf".toList then
    return Float.ofBits (if negative then 0xfff0000000000000 else 0x7ff0000000000000)
  else if body = "nan".toList then
    return Float.ofBits 0x7ff8000000000000
  else
    let (number, exponent) := splitAtFirst (fun c => c = 'e' || c = 'E') body
    let (whole, fraction) := splitAtFirst (· = '.') number
    if exponent.isNone && fraction.isNone then none
    else
      let whole ← decimal? whole
      let fraction ← match fraction with
        | none => some []
        | some ds => digits? Char.isDigit ds
      let e ← match exponent with
        | none => some (0 : Int)
        | some ds =>
          let (below, ds) := splitSign ds
          (digits? Char.isDigit ds).map fun ds => if below then -ofBase 10 ds else ofBase 10 ds
      let m := Nat.ofDigitChars 10 (whole ++ fraction) 0
      let x := Decimal.nearest negative m (e - fraction.length)
      if x.isInf && !negative then none else return x

/-! ## Points in time -/

/-- Exactly `n` digits as a number. -/
def fixed (n : Nat) (cs : List Char) : Option (Nat × List Char) :=
  let ds := cs.take n
  if ds.length = n && ds.all Char.isDigit then some (Nat.ofDigitChars 10 ds 0, cs.drop n) else none

/-- A number of `n` digits within bounds. -/
def bounded (n least greatest : Nat) (cs : List Char) : Option (Nat × List Char) :=
  (fixed n cs).filter fun (v, _) => least ≤ v && v ≤ greatest

/-- The days of a month. -/
def monthDays (year month : Nat) : Nat :=
  if month = 2 then
    if year % 4 = 0 && (year % 100 != 0 || year % 400 = 0) then 29 else 28
  else if month = 4 || month = 6 || month = 9 || month = 11 then 30
  else 31

/-- Drops a date that is on the calendar. -/
def dropDate (cs : List Char) : Option (List Char) := do
  let (year, cs) ← fixed 4 cs
  let ((), cs) ← char '-' cs
  let (month, cs) ← bounded 2 1 12 cs
  let ((), cs) ← char '-' cs
  let (_, cs) ← bounded 2 1 (monthDays year month) cs
  some cs

/-- Drops a time of day, with a fraction of the second where there is one. -/
def dropTime (cs : List Char) : Option (List Char) := do
  let (_, cs) ← bounded 2 0 23 cs
  let ((), cs) ← char ':' cs
  let (_, cs) ← bounded 2 0 59 cs
  let ((), cs) ← char ':' cs
  let (_, cs) ← bounded 2 0 60 cs
  match cs with
  | '.' :: rest =>
    let (ds, rest) := takeWhile Char.isDigit rest
    if ds.isEmpty then none else some rest
  | cs => some cs

/-- Takes an offset from universal time off the front, if there is one. -/
def dropOffset (cs : List Char) : Option (List Char) :=
  match cs with
  | c :: rest =>
    if c = 'Z' || c = 'z' then some rest
    else if c = '+' || c = '-' then do
      let (_, rest) ← bounded 2 0 23 rest
      let ((), rest) ← char ':' rest
      let (_, rest) ← bounded 2 0 59 rest
      some rest
    else some cs
  | [] => some []

/-- A word that is a date, a time of day, or both with or without an offset. -/
def isMoment (w : List Char) : Bool :=
  match dropDate w with
  | some [] => true
  | some (c :: rest) =>
    (c = 'T' || c = 't' || c = ' ') && ((dropTime rest).bind dropOffset).any List.isEmpty
  | none => (dropTime w).any List.isEmpty

end GradeRelay.Toml

import GradeRelay.Text.Hidden
/-!
# Quoted text

A text between double quotes. A quote, a backslash, a line feed, a carriage return, a tab and NUL
are written with a backslash and one letter; any other hidden character by its code point in
lower-case hexadecimal digits between braces; all else stands for itself.
-/

namespace GradeRelay.Text

/-- How one character is written between quotes. -/
def escape (c : Char) : List Char :=
  if c = '"' then ['\\', '"']
  else if c = '\\' then ['\\', '\\']
  else if c = '\n' then ['\\', 'n']
  else if c = '\r' then ['\\', 'r']
  else if c = '\t' then ['\\', 't']
  else if c = '\x00' then ['\\', '0']
  else if isHidden c then '\\' :: 'u' :: '\x7b' :: (Nat.toDigits 16 c.toNat ++ ['\x7d'])
  else [c]

/-- The written form of a text: its characters between quotes. -/
def quote (s : String) : String :=
  String.ofList ('"' :: (s.toList.flatMap escape ++ ['"']))

end GradeRelay.Text

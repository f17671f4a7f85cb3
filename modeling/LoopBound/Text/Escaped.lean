import LoopBound.Text.Quoted

/-!
# Escaped texts

A text as a string token of printable ASCII characters alone: in double quotes, the quote and the
backslash escaped, controls by short escapes or by number, and what is beyond ASCII by the numbers
of its UTF-16 units.
-/

namespace LoopBound.Text

/-- The UTF-16 units of a character. -/
def units16 (c : Char) : List Nat :=
  let n := c.toNat
  if n < 0x10000 then [n]
  else [0xD800 + (n - 0x10000) / 0x400, 0xDC00 + (n - 0x10000) % 0x400]

/-- A unit by its number. -/
def escapedUnit (n : Nat) : List Char :=
  '\\' :: 'u' :: hexDigits 4 n

/-- A character inside an escaped text. -/
def escapedChar (c : Char) : List Char :=
  if c == '"' then ['\\', '"']
  else if c == '\\' then ['\\', '\\']
  else if c == '\n' then ['\\', 'n']
  else if c == '\r' then ['\\', 'r']
  else if c == '\t' then ['\\', 't']
  else if c == '\x08' then ['\\', 'b']
  else if c == '\x0c' then ['\\', 'f']
  else if ' ' ≤ c && c ≤ '~' then [c]
  else (units16 c).flatMap escapedUnit

/-- A text as a string token. -/
def escaped (s : String) : String :=
  String.ofList ('"' :: s.toList.flatMap escapedChar ++ ['"'])

end LoopBound.Text

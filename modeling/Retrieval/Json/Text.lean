/-!
# Writing JSON

A string is written between quotes.  A quote and a backslash get a backslash in front; five control
characters have a letter, and the others are written by number; everything else stands for itself.
A record is written with one field a line.
-/

namespace Retrieval.Json

/-- The two hexadecimal digits of a number below 256. -/
def hexPair (n : Nat) : List Char :=
  [Nat.digitChar (n / 16), Nat.digitChar (n % 16)]

/-- How a character of a string is written. -/
def escape (c : Char) : List Char :=
  if c = '"' then ['\\', '"']
  else if c = '\\' then ['\\', '\\']
  else if c = '\x08' then ['\\', 'b']
  else if c = '\x0c' then ['\\', 'f']
  else if c = '\n' then ['\\', 'n']
  else if c = '\r' then ['\\', 'r']
  else if c = '\t' then ['\\', 't']
  else if c.toNat < 0x20 then ['\\', 'u', '0', '0'] ++ hexPair c.toNat
  else [c]

/-- How a string is written. -/
def quote (text : List Char) : List Char :=
  '"' :: (text.flatMap escape ++ ['"'])

/-- How a whole number is written. -/
def whole (n : Nat) : List Char :=
  Nat.toDigits 10 n

/-- How one field of a record is written. -/
def field (name : String) (value : List Char) : List Char :=
  [' ', ' '] ++ quote name.toList ++ [':', ' '] ++ value

/-- How a record is written, its values being written already. -/
def record (fields : List (String × List Char)) : List Char :=
  let lines := fields.map fun (name, value) => field name value
  ['{', '\n'] ++ [',', '\n'].intercalate lines ++ ['\n', '}']

end Retrieval.Json

import Retrieval.Utf8

/-!
# Reading frames

A `Reader` holds the octets that are left and how many have been read.  Each read says what it
looks for, and an error repeats that.  A count is accepted only if as many records of the least
size could follow, and a string only if its octets are there, so no read trusts a number further
than the octets reach.
-/

namespace Retrieval.Frame

/-- Octets that are left, and how many were read before them. -/
structure Reader where
  rest : List UInt8
  offset : Nat := 0
  deriving Repr, DecidableEq

/-- Why frames cannot be read.  `what` is what was sought. -/
inductive ReadError where
  /-- The octets end within a word. -/
  | truncated (what : String) (offset : Nat)
  /-- A count of records that need more octets than are left. -/
  | tooMany (what : String) (count needed left : Nat)
  /-- A string that is longer than what is left. -/
  | tooLong (what : String) (length left : Nat)
  /-- A string whose octets are not UTF-8. -/
  | notText (what : String) (reason : Utf8.DecodeError)
  /-- Octets after the last record. -/
  | trailing (count : Nat)
  deriving Repr, DecidableEq

namespace ReadError

/-- The words for the error. -/
def message : ReadError → String
  | truncated what offset => s!"truncated {what} at offset {offset}"
  | tooMany what count needed left =>
    s!"{what} of {count} needs at least {needed} bytes, {left} left"
  | tooLong what length left => s!"{what} length {length} exceeds the {left} bytes left"
  | notText what reason =>
    let reason := reason.message
    s!"{what} is not UTF-8: {reason}"
  | trailing count => s!"{count} trailing bytes after last record"

end ReadError

namespace Reader

/-- How many octets are left. -/
def remaining (reader : Reader) : Nat :=
  reader.rest.length

/-- The reader after `n` more octets. -/
def advance (reader : Reader) (n : Nat) : Reader :=
  ⟨reader.rest.drop n, reader.offset + n⟩

/-- Reads a word. -/
def readWord (reader : Reader) (what : String) : Except ReadError (UInt32 × Reader) :=
  match reader.rest with
  | a :: b :: c :: d :: _ =>
    .ok (UInt32.ofNat (a.toNat + b.toNat * 0x100 + c.toNat * 0x10000 + d.toNat * 0x1000000),
      reader.advance 4)
  | _ => .error (.truncated what reader.offset)

/-- The greatest number of octets that a size can express; a larger need is reported as this. -/
def sizeLimit : Nat := UInt64.size - 1

/-- Reads a count of records of at least `least` octets each. -/
def readCount (reader : Reader) (what : String) (least : Nat) :
    Except ReadError (Nat × Reader) := do
  let (value, reader) ← reader.readWord what
  let needed := min (value.toNat * least) sizeLimit
  if reader.remaining < needed then
    .error (.tooMany what value.toNat needed reader.remaining)
  else return (value.toNat, reader)

/-- Reads a string. -/
def readString (reader : Reader) (what : String) : Except ReadError (String × Reader) := do
  let (length, reader) ← reader.readWord what
  if reader.remaining < length.toNat then
    .error (.tooLong what length.toNat reader.remaining)
  else
    match Utf8.decode (reader.rest.take length.toNat) with
    | .ok text => return (String.ofList text, reader.advance length.toNat)
    | .error reason => .error (.notText what reason)

/-- Ends the reading: nothing may be left. -/
def finish (reader : Reader) : Except ReadError Unit :=
  if reader.rest.isEmpty then .ok () else .error (.trailing reader.remaining)

end Reader

end Retrieval.Frame

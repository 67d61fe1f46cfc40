import Retrieval.Fault
import Retrieval.Frame.Reader

/-!
# Calls on a cursor

A `Reader` holds the octets that are left.  A `Cursor` holds all octets and the position that has
been reached in them, and sizes and positions are numbers of 64 bits, so every step of a read may go
wrong in its own way: the position may run over, a product may be too large for a size, and the
octets may end within those that are asked for.  A read that comes short has still taken some of the
octets that were left; how many is not said, and `lost` stands for it.

A call on a cursor is a computation that has a cursor at its end in any case, and the calls after it
go on from there.
-/

namespace Retrieval.Frame

/-- What is read. -/
inductive Value where
  | word (value : UInt32)
  | count (number : Nat)
  | string (value : String)
  deriving Repr, DecidableEq

/-- A call that reads, with what it says that it looks for. -/
inductive Read where
  | word (what : String)
  /-- A count of records of at least `least` octets each. -/
  | count (what : String) (least : UInt64)
  | string (what : String)
  deriving Repr, DecidableEq

/-! ## On a reader -/

namespace Reader

/-- What the call reads, and the reader behind it. -/
def read (reader : Reader) : Read → Except ReadError (Value × Reader)
  | .word what => (reader.readWord what).map (Prod.map .word id)
  | .count what least => (reader.readCount what least.toNat).map (Prod.map .count id)
  | .string what => (reader.readString what).map (Prod.map .string id)

/-- What calls read one after the other, and the reader behind them. -/
def readAll (reader : Reader) : List Read → Except ReadError (List Value × Reader)
  | [] => .ok ([], reader)
  | read :: rest => do
    let (value, reader) ← reader.read read
    let (values, reader) ← reader.readAll rest
    return (value :: values, reader)

end Reader

/-! ## On a cursor -/

/-- Octets and the position that has been reached in them. -/
structure Cursor where
  octets : List UInt8
  position : UInt64 := 0
  deriving Repr, DecidableEq

namespace Cursor

/-- The octets from the position on. -/
def rest (cursor : Cursor) : List UInt8 :=
  cursor.octets.drop cursor.position.toNat

/-- How many octets there are. -/
def size (cursor : Cursor) : UInt64 :=
  UInt64.ofNat cursor.octets.length

/-- How many octets are left, which is none from the last one on. -/
def remaining (cursor : Cursor) : UInt64 :=
  if cursor.size ≤ cursor.position then 0 else cursor.size - cursor.position

/-- The cursor `n` octets further on. -/
def moved (cursor : Cursor) (n : UInt64) : Cursor :=
  { cursor with position := cursor.position + n }

end Cursor

/-- Why a call reports an error. -/
inductive InputError where
  /-- The frame is not there. -/
  | frame (reason : ReadError)
  /-- The octets end within those that were asked for. -/
  | ended
  deriving Repr, DecidableEq

/-- A computation over a cursor.  If it fails, the cursor stays where it has got to. -/
abbrev Input := ExceptT (Failure InputError) (StateM Cursor)

/-- The product of two sizes, or the greatest size if it is greater. -/
def saturatingMul (a b : UInt64) : UInt64 :=
  if a.toNat * b.toNat < UInt64.size then a * b else UInt64.ofNat (UInt64.size - 1)

namespace Input

/-- Moves the cursor on, to a position that must still be a number of 64 bits. -/
def advance (n : UInt64) : Input Unit := do
  let cursor ← get
  if cursor.position.toNat + n.toNat < UInt64.size then set (cursor.moved n)
  else throw (.fault .additionOverflow)

/-- Takes `n` octets.  If fewer are left, some of them are taken, and the call reports it. -/
def exactly (lost : Cursor → UInt64) (n : UInt64) : Input (List UInt8) := do
  let cursor ← get
  if cursor.remaining < n then
    advance (min (lost cursor) cursor.remaining)
    throw (.error .ended)
  else
    advance n
    return cursor.rest.take n.toNat

/-- The number that octets write, the least first. -/
def weigh (octets : List UInt8) : Nat :=
  octets.foldr (fun octet rest => octet.toNat + 0x100 * rest) 0

/-- What is reported of octets that end within a word. -/
def truncated (what : String) (offset : Nat) : Failure InputError → Failure InputError
  | .error .ended => .error (.frame (.truncated what offset))
  | failure => failure

/-- Reads a word.  If the octets end within it, it says where it began. -/
def word (lost : Cursor → UInt64) (what : String) : Input UInt32 := do
  let cursor ← get
  let octets ← tryCatch (exactly lost 4) fun failure =>
    throw (truncated what cursor.position.toNat failure)
  return UInt32.ofNat (weigh octets)

/-- Reads a count of records of at least `least` octets each. -/
def count (lost : Cursor → UInt64) (what : String) (least : UInt64) : Input Nat := do
  let number ← word lost what
  let needed := saturatingMul number.toUInt64 least
  let left := (← get).remaining
  if left < needed then
    throw (.error (.frame (.tooMany what number.toNat needed.toNat left.toNat)))
  else return number.toNat

/-- Reads a string. -/
def string (lost : Cursor → UInt64) (what : String) : Input String := do
  let length ← word lost what
  let left := (← get).remaining
  if left < length.toUInt64 then
    throw (.error (.frame (.tooLong what length.toNat left.toNat)))
  else
    let octets ← exactly lost length.toUInt64
    match Utf8.decode octets with
    | .ok text => return String.ofList text
    | .error reason => throw (.error (.frame (.notText what reason)))

end Input

/-- What the call does. -/
def Read.perform (lost : Cursor → UInt64) : Read → Input Value
  | word what => .word <$> Input.word lost what
  | count what least => .count <$> Input.count lost what least
  | string what => .string <$> Input.string lost what

/-- What calls come to, one after the other, and the cursor after them. -/
def readEach (lost : Cursor → UInt64) :
    List Read → Cursor → List (Except (Failure InputError) Value) × Cursor
  | [], cursor => ([], cursor)
  | read :: rest, cursor =>
    let (outcome, cursor) := (read.perform lost).run.run cursor
    let (outcomes, cursor) := readEach lost rest cursor
    (outcome :: outcomes, cursor)

/-- Ends the reading: nothing may be left. -/
def Cursor.finish (cursor : Cursor) : Except (Failure InputError) Unit :=
  if cursor.remaining = 0 then .ok ()
  else .error (.error (.frame (.trailing cursor.remaining.toNat)))

end Retrieval.Frame

import Retrieval.Frame.Writer

/-!
# Calls on a writer

A call on a writer changes it, and it may fail.  A string is written in two steps, first the count of
its octets and then the octets, so it must be said what a call leaves of the writer when it fails:
here a call is a computation over the writer that has a writer at its end in any case, and the calls
after it go on from there.
-/

namespace Retrieval.Frame

/-- A computation over a writer.  If it fails, what it has written until then is kept. -/
abbrev Output := ExceptT LengthError (StateM Writer)

namespace Output

/-- Writes octets as they are. -/
def octets (frame : List UInt8) : Output Unit :=
  modify fun writer => writer.push frame

/-- Writes a word. -/
def word (value : UInt32) : Output Unit :=
  octets (Frame.word value)

/-- Writes a count, if it fits a word. -/
def count (length : Nat) : Output Unit :=
  if length < UInt32.size then word (UInt32.ofNat length) else throw ⟨length⟩

/-- Writes a string: the count of its octets, then the octets. -/
def string (value : String) : Output Unit := do
  let frame := Utf8.encode value.toList
  count frame.length
  octets frame

end Output

/-- A call on a writer. -/
inductive Write where
  | word (value : UInt32)
  | count (length : Nat)
  | string (value : String)
  deriving Repr, DecidableEq

/-- What the call does. -/
def Write.perform : Write → Output Unit
  | word value => Output.word value
  | count length => Output.count length
  | string value => Output.string value

/-- What calls come to, one after the other, and the writer after them. -/
def writeEach : List Write → Writer → List (Except LengthError Unit) × Writer
  | [], writer => ([], writer)
  | write :: rest, writer =>
    let (outcome, writer) := write.perform.run.run writer
    let (outcomes, writer) := writeEach rest writer
    (outcome :: outcomes, writer)

/-- The call as a step from one writer to the next. -/
def Writer.write (writer : Writer) : Write → Except LengthError Writer
  | .word value => .ok (writer.writeWord value)
  | .count length => writer.writeCount length
  | .string value => writer.writeString value

end Retrieval.Frame

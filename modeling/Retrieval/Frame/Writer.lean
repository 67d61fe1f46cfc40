import Retrieval.Utf8

/-!
# Writing frames

Every binary artifact is a sequence of frames: 32-bit words, least octet first, and strings, each a
word that counts its octets followed by its UTF-8 octets.  A count that does not fit a word has no
frame.  A `Writer` gathers frames one after the other.
-/

namespace Retrieval.Frame

/-- A count that does not fit a 32-bit word. -/
structure LengthError where
  length : Nat
  deriving Repr, DecidableEq

/-- The words for the error. -/
def LengthError.message (e : LengthError) : String :=
  let length := e.length
  s!"length {length} does not fit a u32 frame"

/-- The four octets of a word, least first. -/
def word (value : UInt32) : List UInt8 :=
  let n := value.toNat
  [UInt8.ofNat n, UInt8.ofNat (n / 0x100), UInt8.ofNat (n / 0x10000),
    UInt8.ofNat (n / 0x1000000)]

/-- The frame of a count. -/
def count (length : Nat) : Except LengthError (List UInt8) :=
  if length < UInt32.size then .ok (word (UInt32.ofNat length)) else .error ⟨length⟩

/-- The frame of a string. -/
def string (value : String) : Except LengthError (List UInt8) := do
  let octets := Utf8.encode value.toList
  let head ← count octets.length
  return head ++ octets

/-- The octets of the frames written so far, and how many there are. -/
structure Writer where
  octets : List UInt8 := []
  written : Nat := 0
  deriving Repr, DecidableEq

namespace Writer

/-- Adds the octets of a frame. -/
def push (writer : Writer) (frame : List UInt8) : Writer :=
  ⟨writer.octets ++ frame, writer.written + frame.length⟩

/-- Writes a word. -/
def writeWord (writer : Writer) (value : UInt32) : Writer :=
  writer.push (word value)

/-- Writes a count. -/
def writeCount (writer : Writer) (length : Nat) : Except LengthError Writer :=
  (count length).map writer.push

/-- Writes a string. -/
def writeString (writer : Writer) (value : String) : Except LengthError Writer :=
  (string value).map writer.push

end Writer

end Retrieval.Frame

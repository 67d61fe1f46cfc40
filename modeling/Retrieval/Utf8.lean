/-!
# UTF-8

`encode` writes characters as octets.  `decode` reads them back and refuses everything else, with
the length of the part before the fault and of the faulty part; `decodeLossy` writes a replacement
character for each faulty part instead.

Both decoders read one octet at a time.  A *lead* says how many octets follow and which values the
next one may have, so that overlong forms, surrogates and numbers past the last character are
refused at the second octet.  A faulty part is the longest start of a character's form that is
there: the octet after it belongs to what follows.
-/

namespace Retrieval.Utf8

/-! ## Encoding -/

/-- The octets of a character. -/
def encodeChar (c : Char) : List UInt8 :=
  let n := c.toNat
  let tail (bits : Nat) : UInt8 := UInt8.ofNat (0x80 + bits % 0x40)
  if n < 0x80 then [UInt8.ofNat n]
  else if n < 0x800 then [UInt8.ofNat (0xC0 + n / 0x40), tail n]
  else if n < 0x10000 then [UInt8.ofNat (0xE0 + n / 0x1000), tail (n / 0x40), tail n]
  else [UInt8.ofNat (0xF0 + n / 0x40000), tail (n / 0x1000), tail (n / 0x40), tail n]

/-- The octets of a text. -/
def encode (text : List Char) : List UInt8 :=
  text.flatMap encodeChar

/-! ## Reading an octet -/

/-- A character of which some octets have been read. -/
structure Pending where
  /-- How many octets are missing; at least one. -/
  missing : Nat
  /-- The least and the greatest value that the next octet may have. -/
  low : Nat
  high : Nat
  /-- The bits read so far. -/
  value : Nat
  /-- How many octets have been read. -/
  taken : Nat
  deriving Repr, DecidableEq

/-- What an octet begins. -/
inductive Opening where
  | scalar (c : Char)
  | lead (pending : Pending)
  | invalid
  deriving Repr, DecidableEq

/-- What an octet begins where a character is due. -/
def opening (octet : UInt8) : Opening :=
  let n := octet.toNat
  if n < 0x80 then .scalar (Char.ofNat n)
  else if n < 0xC2 then .invalid
  else if n < 0xE0 then .lead ⟨1, 0x80, 0xBF, n - 0xC0, 1⟩
  else if n < 0xF0 then
    .lead ⟨2, if n = 0xE0 then 0xA0 else 0x80, if n = 0xED then 0x9F else 0xBF, n - 0xE0, 1⟩
  else if n < 0xF5 then
    .lead ⟨3, if n = 0xF0 then 0x90 else 0x80, if n = 0xF4 then 0x8F else 0xBF, n - 0xF0, 1⟩
  else .invalid

/-- What an octet makes of a pending character; an octet that does not belong to it is `invalid`. -/
def Pending.feed (pending : Pending) (octet : UInt8) : Opening :=
  let n := octet.toNat
  let value := pending.value * 0x40 + (n - 0x80)
  if n < pending.low ∨ pending.high < n then .invalid
  else if pending.missing ≤ 1 then .scalar (Char.ofNat value)
  else .lead ⟨pending.missing - 1, 0x80, 0xBF, value, pending.taken + 1⟩

/-! ## Decoding -/

/-- Why octets are not UTF-8. -/
inductive DecodeError where
  /-- A part of `length` octets that begins no character, after `index` octets that are UTF-8. -/
  | invalid (length index : Nat)
  /-- The octets end within a character, after `index` octets that are UTF-8. -/
  | incomplete (index : Nat)
  deriving Repr, DecidableEq

namespace DecodeError

/-- The words for the error. -/
def message : DecodeError → String
  | invalid length index => s!"invalid utf-8 sequence of {length} bytes from index {index}"
  | incomplete index => s!"incomplete utf-8 byte sequence from index {index}"

end DecodeError

/-- Decodes octets before which `index` octets have been read as characters and, after them, those
of a pending character. -/
def decodeFrom (index : Nat) (pending? : Option Pending) :
    List UInt8 → Except DecodeError (List Char)
  | [] =>
    match pending? with
    | none => .ok []
    | some _ => .error (.incomplete index)
  | octet :: rest =>
    let taken := match pending? with
      | none => 0
      | some pending => pending.taken
    let opened := match pending? with
      | none => opening octet
      | some pending => pending.feed octet
    match opened with
    | .scalar c => (decodeFrom (index + taken + 1) none rest).map (c :: ·)
    | .lead pending => decodeFrom index (some pending) rest
    | .invalid => .error (.invalid (max taken 1) index)

/-- The text of the octets, if they are UTF-8. -/
def decode (octets : List UInt8) : Except DecodeError (List Char) :=
  decodeFrom 0 none octets

/-- What stands for a faulty part. -/
def replacement : Char := '\uFFFD'

/-- Decodes octets, after those of a pending character, with a replacement for each faulty part. -/
def decodeLossyFrom (pending? : Option Pending) : List UInt8 → List Char
  | [] =>
    match pending? with
    | none => []
    | some _ => [replacement]
  | octet :: rest =>
    let fresh (cut : List Char) : List Char :=
      match opening octet with
      | .scalar c => cut ++ c :: decodeLossyFrom none rest
      | .lead pending => cut ++ decodeLossyFrom (some pending) rest
      | .invalid => cut ++ replacement :: decodeLossyFrom none rest
    match pending? with
    | none => fresh []
    | some pending =>
      match pending.feed octet with
      | .scalar c => c :: decodeLossyFrom none rest
      | .lead pending => decodeLossyFrom (some pending) rest
      | .invalid => fresh [replacement]

/-- The text of the octets, with a replacement character for each faulty part. -/
def decodeLossy (octets : List UInt8) : List Char :=
  decodeLossyFrom none octets

example : decode [0x61, 0xD0, 0xBF] = .ok ['a', 'п'] := by rfl
example : decode [0x61, 0xE2, 0x82, 0x61] = .error (.invalid 2 1) := by rfl
example : decode [0xF0, 0x9F] = .error (.incomplete 0) := by rfl
example : decodeLossy [0xE2, 0x82, 0x61, 0xFF, 0xF0, 0x9F] = "\uFFFDa\uFFFD\uFFFD".toList := by
  rfl

end Retrieval.Utf8

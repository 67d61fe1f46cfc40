/-!
# Binary floating point

The nonnegative binary floating point numbers of 64 bits, held by their bit patterns, with the two
operations that scores need: the nearest number to a quotient, and the sum.  Every finite one is a
whole number of units of `2 ^ -1074`, the least of them, so both operations are one rounding of an
exact natural quotient.  For nonnegative numbers the order of the values is that of the patterns.
-/

namespace Retrieval

/-- A nonnegative binary floating point number, as its bit pattern. -/
structure Binary64 where
  bits : UInt64
  deriving Repr, DecidableEq

namespace Binary64

/-- How many patterns share a scale: the low bits of a pattern are its fraction, the high ones its
scale. -/
def fractionSize : Nat := 0x10000000000000

/-- How many units make one. -/
def unitsPerOne : Nat := Nat.pow 2 1074

/-- The pattern of infinity; the patterns below it are the finite numbers. -/
def infinityBits : Nat := 2047 * fractionSize

/-- The number above all finite ones. -/
def infinity : Binary64 := ⟨UInt64.ofNat infinityBits⟩

instance : LE Binary64 := ⟨fun a b => a.bits ≤ b.bits⟩
instance : LT Binary64 := ⟨fun a b => a.bits < b.bits⟩
instance (a b : Binary64) : Decidable (a ≤ b) := inferInstanceAs (Decidable (a.bits ≤ b.bits))
instance (a b : Binary64) : Decidable (a < b) := inferInstanceAs (Decidable (a.bits < b.bits))

/-- The whole number nearest to `num / den`; of two equally near the even one. -/
def roundQuotient (num den : Nat) : Nat :=
  let floor := num / den
  let twice := 2 * (num % den)
  if den < twice ∨ (twice = den ∧ floor % 2 = 1) then floor + 1 else floor

/-- The number nearest to `num / den` units.  A quotient of more than 53 bits is rounded after as
many of them as can be kept; the pattern counts the bits lost above the kept ones. -/
def nearest (num den : Nat) : Binary64 :=
  if den = 0 then infinity
  else
    let shift := (num / den).log2 - 52
    let pattern := shift * fractionSize + roundQuotient num (den * Nat.pow 2 shift)
    ⟨UInt64.ofNat (min infinityBits pattern)⟩

/-- The scale of a number: the gap to the next number doubles from one scale to the next, except
from the first to the second. -/
def scale (x : Binary64) : Nat :=
  x.bits.toNat / fractionSize

/-- The place of a number among those of its scale. -/
def fraction (x : Binary64) : Nat :=
  x.bits.toNat % fractionSize

/-- The value of a finite number in units. -/
def units (x : Binary64) : Nat :=
  if x.scale = 0 then x.fraction else (fractionSize + x.fraction) * Nat.pow 2 (x.scale - 1)

/-- The number nearest to the quotient of two whole numbers; infinity if the divisor is zero. -/
def ofQuotient (num den : Nat) : Binary64 :=
  nearest (num * unitsPerOne) den

/-- The number nearest to the sum. -/
def add (a b : Binary64) : Binary64 :=
  if a.bits.toNat < infinityBits ∧ b.bits.toNat < infinityBits then nearest (a.units + b.units) 1
  else infinity

instance : Add Binary64 := ⟨add⟩

example : (ofQuotient 1000 2 + ofQuotient 100 1).bits = 0x4082c00000000000 := by decide +kernel

end Binary64

end Retrieval

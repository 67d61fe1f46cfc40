import Retrieval.Number.Binary64

/-!
# Shortest decimal text

`Binary64.decimal` writes a number with the fewest digits that read back as the same number, and of
those with the nearest value.  The digits are always written around a point, never with an
exponent, and a whole number has neither point nor zero after it.

The reals that read back as a number fill the interval halfway to its neighbours, ends included if
its last bit is zero.  A grid of decimals of a given number of digits meets that interval if and
only if one of the two grid points around the number does, so those two are all that is tried.
-/

namespace Retrieval.Binary64

/-- The interval of values that read back as a finite number, in half units. -/
structure Interval where
  lower : Nat
  upper : Nat
  closed : Bool

/-- The interval of a finite number.  The neighbour below a power of two is half as far away. -/
def interval (x : Binary64) : Interval :=
  let gap := Nat.pow 2 (x.scale - 1)
  let below := if x.fraction = 0 ∧ 1 < x.scale then gap / 2 else gap
  ⟨2 * x.units - below, 2 * x.units + gap, x.bits.toNat % 2 = 0⟩

/-- The decimal `coefficient * 10 ^ exponent`. -/
structure Scaled where
  coefficient : Nat
  exponent : Int

/-- A decimal in half units, as a quotient. -/
def Scaled.halfUnits (d : Scaled) : Nat × Nat :=
  (d.coefficient * Nat.pow 10 d.exponent.toNat * (2 * unitsPerOne), Nat.pow 10 (-d.exponent).toNat)

/-- Whether a decimal lies in an interval. -/
def Interval.contains (i : Interval) (d : Scaled) : Bool :=
  let (num, den) := d.halfUnits
  if i.closed then i.lower * den ≤ num ∧ num ≤ i.upper * den
  else i.lower * den < num ∧ num < i.upper * den

/-- How many digits stand before the point; for a number below one, less the zeros that follow the
point.  The scan for such zeros ends at the least number. -/
def magnitude (units : Nat) : Int :=
  let whole := units / unitsPerOne
  if 0 < whole then (Nat.toDigits 10 whole).length
  else
    let zeros := (List.range 330).find? fun z => unitsPerOne ≤ units * Nat.pow 10 (z + 1)
    0 - ((zeros.getD 0 : Nat) : Int)

/-- The decimal of `digits` digits that reads back as the number, if there is one. -/
def ofDigits? (x : Binary64) (magnitude : Int) (digits : Nat) : Option Scaled :=
  let exponent := magnitude - digits
  let num := x.units * Nat.pow 10 (-exponent).toNat
  let den := unitsPerOne * Nat.pow 10 exponent.toNat
  let floor : Scaled := ⟨num / den, exponent⟩
  let ceiling : Scaled := ⟨num / den + 1, exponent⟩
  let nearer := if 2 * (num % den) ≤ den then [floor, ceiling] else [ceiling, floor]
  nearer.find? x.interval.contains

/-- The shortest decimal that reads back as the number. -/
def shortest (x : Binary64) : Scaled :=
  ((List.range 17).findSome? fun n => x.ofDigits? (magnitude x.units) (n + 1)).getD ⟨0, 0⟩

/-- The text of a decimal, without zeros at the end of its fraction. -/
def Scaled.text (d : Scaled) : List Char :=
  let digits := Nat.toDigits 10 d.coefficient
  if 0 ≤ d.exponent then digits ++ List.replicate d.exponent.toNat '0'
  else
    let places := (-d.exponent).toNat
    let padded := List.replicate (places + 1 - digits.length) '0' ++ digits
    let whole := padded.take (padded.length - places)
    let fraction := ((padded.drop (padded.length - places)).reverse.dropWhile (· = '0')).reverse
    if fraction.isEmpty then whole else whole ++ '.' :: fraction

/-- The shortest text that reads back as the number. -/
def decimal (x : Binary64) : String :=
  if x.bits.toNat < infinityBits then
    if x.bits = 0 then "0" else String.ofList x.shortest.text
  else "inf"

end Retrieval.Binary64

/-!
# Ranges of code points

A property of characters is stored as the ascending list of the inclusive ranges of code points
that have it.  `Ranges.covers` looks a character up and stops at the first range that lies above
it, so the common characters, which stand in the first ranges, are found at once.
-/

namespace Retrieval.Unicode

/-- Inclusive, disjoint ranges of code points in ascending order. -/
abbrev Ranges := List (Nat × Nat)

/-- Whether the code point `n` lies in one of the ranges. -/
def Ranges.coversPoint : Ranges → Nat → Bool
  | [], _ => false
  | (first, last) :: rest, n =>
    if n < first then false
    else if n ≤ last then true
    else coversPoint rest n

/-- Whether the character lies in one of the ranges. -/
def Ranges.covers (ranges : Ranges) (c : Char) : Bool :=
  ranges.coversPoint c.toNat

end Retrieval.Unicode

import Retrieval.Unicode.Decomposition

/-!
# Compatibility composition

`compatibilityCompose` is the normalization form that folds compatibility variants: every character
is decomposed, combining marks are sorted by class, and what composes canonically is composed
again.  Texts below U+00A0 are already in this form, which `compatibilityCompose` uses as a short
cut: no character below that point decomposes, composes with another of them or is a mark.
-/

namespace Retrieval.Unicode

/-! ## Canonical order -/

/-- Puts a character in front of a text in canonical order, past the marks of smaller class. -/
def placeMark (c : Char) : List Char → List Char
  | [] => [c]
  | d :: rest =>
    if 0 < combiningClass d ∧ combiningClass d < combiningClass c then d :: placeMark c rest
    else c :: d :: rest

/-- Sorts every run of marks by combining class and keeps the order of marks of one class. -/
def canonicalOrder (text : List Char) : List Char :=
  text.foldr placeMark []

/-! ## Composition -/

/-- A starter with the marks after it that have not been composed, the latest first. -/
structure Cluster where
  starter : Char
  marks : List Char := []

namespace Cluster

/-- The characters of the cluster in their order. -/
def toList (cluster : Cluster) : List Char :=
  cluster.starter :: cluster.marks.reverse

/-- Whether a mark between the starter and `c` keeps the two apart. -/
def blocks (cluster : Cluster) (c : Char) : Bool :=
  match cluster.marks with
  | [] => false
  | mark :: _ => combiningClass c ≤ combiningClass mark

end Cluster

/-- Composes the characters of a text in canonical order.  `cluster?` is the last starter with
what has gathered after it; marks before the first starter stand as they are. -/
def composeFrom (cluster? : Option Cluster) : List Char → List Char
  | [] => (cluster?.map Cluster.toList).getD []
  | c :: rest =>
    match cluster? with
    | none =>
      if combiningClass c = 0 then composeFrom (some { starter := c }) rest
      else c :: composeFrom none rest
    | some cluster =>
      match if cluster.blocks c then none else compose? cluster.starter c with
      | some composite => composeFrom (some { cluster with starter := composite }) rest
      | none =>
        if combiningClass c = 0 then
          cluster.toList ++ composeFrom (some { starter := c }) rest
        else composeFrom (some { cluster with marks := c :: cluster.marks }) rest

/-- The text with compatibility variants folded and canonical composites composed. -/
def compatibilityCompose (text : List Char) : List Char :=
  if text.all (·.toNat < 0xA0) then text
  else composeFrom none (canonicalOrder (text.flatMap decompose))

end Retrieval.Unicode

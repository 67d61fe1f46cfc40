import Retrieval.Fault

/-!
# Bit rows

A bit row tells for each of a list of documents whether it is meant.  Rows of one width combine bit
by bit; rows of different widths do not combine at all.
-/

namespace Retrieval.Posting

/-- One bit for each document, the least document first. -/
abbrev BitRow := List Bool

namespace BitRow

/-- The row of a width with no bit set. -/
def zeros (width : Nat) : BitRow := List.replicate width false

/-- The row of a width with every bit set. -/
def ones (width : Nat) : BitRow := List.replicate width true

/-- The row with the bit at a slot set, made longer if it is too short. -/
def setBit : Nat → BitRow → BitRow
  | 0, [] => [true]
  | 0, _ :: rest => true :: rest
  | slot + 1, [] => false :: setBit slot []
  | slot + 1, bit :: rest => bit :: setBit slot rest

/-- Whether the bit at a slot is set; beyond the row no bit is. -/
def testBit (row : BitRow) (slot : Nat) : Bool :=
  row.getD slot false

/-- The row with an unset bit put in at a slot, if it reaches that far. -/
def openSlot (slot : Nat) (row : BitRow) : BitRow :=
  if slot < row.length then row.take slot ++ false :: row.drop slot else row

/-- The row with unset bits up to a width, if it is not so wide. -/
def fillTo (width : Nat) (row : BitRow) : BitRow :=
  row ++ zeros (width - row.length)

/-- The row with unset bits up to a width, or the fault that it is wider than that. -/
def padTo (width : Nat) (row : BitRow) : Except Fault BitRow := do
  return row ++ zeros (← checkedSub width row.length)

/-- How many bits are set. -/
def card (row : BitRow) : Nat :=
  row.count true

/-- Two rows of one width combined bit by bit. -/
def combine (f : Bool → Bool → Bool) (a b : BitRow) : Except Fault BitRow :=
  if a.length = b.length then .ok (a.zipWith f b) else .error .widthMismatch

/-- The bits set in both rows. -/
def inter : BitRow → BitRow → Except Fault BitRow := combine (· && ·)

/-- The bits set in either row. -/
def union : BitRow → BitRow → Except Fault BitRow := combine (· || ·)

/-- The bits of `all` that are not set in the row. -/
def complement (row all : BitRow) : Except Fault BitRow :=
  inter (row.map (!·)) all

/-- The elements of a list whose bits are set. -/
def select {α : Type} (row : BitRow) (items : List α) : List α :=
  (row.zip items).filterMap fun (bit, item) => if bit then some item else none

end BitRow

end Retrieval.Posting

import Retrieval.Ids.Map
import Retrieval.Posting.BitRow

/-!
# Postings as bit rows

The registered documents stand in ascending order, and the position of a document among them is its
slot.  A term has a row of bits, one for each slot; rows are kept only up to their last set bit and
filled up with unset bits when they are read.  A document that is registered before others moves
their slots up by one, and an unset bit is put into every row that reaches so far.
-/

namespace Retrieval.Posting

/-- Bit rows over the registered documents. -/
structure Bitset where
  /-- The registered documents, ascending. -/
  documents : List UInt32 := []
  rows : IdMap BitRow := .empty
  deriving DecidableEq

namespace Bitset

/-- The slot of a document: how many documents precede it. -/
def slot (store : Bitset) (doc : UInt32) : Nat :=
  (store.documents.takeWhile (· < doc)).length

/-- Registers a document, unless it is registered.  One that comes last moves no slot, so the rows
are left alone. -/
def register (store : Bitset) (doc : UInt32) : Bitset :=
  if doc ∈ store.documents then store
  else
    let slot := store.slot doc
    let documents := store.documents.take slot ++ doc :: store.documents.drop slot
    let rows := if slot + 1 < documents.length then store.rows.mapValues (BitRow.openSlot slot)
      else store.rows
    { documents, rows }

/-- Records a term in a document, which is registered if need be. -/
def record (store : Bitset) (term doc : UInt32) : Bitset :=
  let store := store.register doc
  { store with rows := store.rows.alter term fun row? =>
      BitRow.setBit (store.slot doc) (row?.getD []) }

/-- Whether the term was recorded in the document. -/
def contains (store : Bitset) (term doc : UInt32) : Bool :=
  decide (doc ∈ store.documents) && ((store.rows.get? term).getD []).testBit (store.slot doc)

/-- The row without set bits. -/
def emptyRow (store : Bitset) : BitRow :=
  BitRow.zeros store.documents.length

/-- The row with every bit set. -/
def fullRow (store : Bitset) : BitRow :=
  BitRow.ones store.documents.length

/-- The row of a term, one bit for each document. -/
def row (store : Bitset) (term : UInt32) : BitRow :=
  BitRow.fillTo store.documents.length ((store.rows.get? term).getD [])

/-- Reads the row of a term, or stops at a stored row that reaches beyond the documents. -/
def readRow (store : Bitset) (term : UInt32) : Except Fault BitRow :=
  match store.rows.get? term with
  | some row => BitRow.padTo store.documents.length row
  | none => .ok store.emptyRow

/-- The documents of a row, the greatest first. -/
def decode (store : Bitset) (row : BitRow) : List UInt32 :=
  (row.select store.documents).reverse

/-- The documents of a term. -/
def docsFor (store : Bitset) (term : UInt32) : IdSet :=
  IdSet.ofList (((store.rows.get? term).getD []).select store.documents)

end Bitset

end Retrieval.Posting

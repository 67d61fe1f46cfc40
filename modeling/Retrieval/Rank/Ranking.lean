import Retrieval.Distinct
import Retrieval.Posting.Store
import Retrieval.Rank.Window

/-!
# Ranking

The documents that hold all of the given terms, the best first: a document is scored by its
shortest covering window, and of equal scores the lesser id stands first.
-/

namespace Retrieval.Rank

/-- A document with its window. -/
structure Scored where
  doc : UInt32
  window : Window
  score : Binary64
  deriving Repr, DecidableEq

/-- The order of ranked documents: descending scores, then ascending ids. -/
def Scored.le (a b : Scored) : Bool :=
  b.score < a.score || (a.score == b.score && a.doc ≤ b.doc)

/-- What a row has for a document, or the fault that it has nothing. -/
def entryOf (row : IdMap (List UInt32)) (doc : UInt32) : Except Fault (List UInt32) :=
  match row.get? doc with
  | some positions => .ok positions
  | none => .error .noEntry

/-- A document of all rows scored by the positions of the terms in it, unless a term has none
there. -/
def scored? (rows : List (IdMap (List UInt32))) (doc : UInt32) :
    Except Fault (Option Scored) := do
  let window? ← coveringWindow? (← rows.mapM (entryOf · doc))
  return window?.map fun window => ⟨doc, window, window.score⟩

/-- The documents of all rows, found among those of the first of the shortest rows. -/
def candidates (rows : List (IdMap (List UInt32))) : List UInt32 :=
  match rows.minOn? IdMap.size with
  | none => []
  | some shortest => shortest.keys.toList.filter fun doc => rows.all (·.contains doc)

/-- The documents that hold every term, the best first. -/
def rank (store : Posting.Positions) (terms : List UInt32) : Except Fault (List Scored) := do
  match (distinct terms).mapM store.get? with
  | none => return []
  | some rows =>
    let found ← (candidates rows).mapM (scored? rows)
    return (found.filterMap id).mergeSort Scored.le

end Retrieval.Rank

import Retrieval.Fault
import Retrieval.Number.Binary64

/-!
# Covering windows

Given the positions of several terms in a document, a window is an interval of positions that holds
at least one position of each term.  `coveringWindow?` finds the shortest, and of several shortest
ones the first.

The occurrences of all terms are scanned in ascending order with two pointers.  The end goes over
all of them, and the start follows it over every occurrence whose term occurs again before the end.
How often each term occurs between the two is counted, by numbers that no count of occurrences
exceeds.  Once all terms do, the occurrences between the pointers make a window, and the shortest
window so far is kept.
-/

namespace Retrieval.Rank

/-- An interval of positions. -/
structure Window where
  start : UInt32
  size : UInt32
  deriving Repr, DecidableEq

/-- The score of a window: greater the earlier it starts, and greater the shorter it is. -/
def Window.score (window : Window) : Binary64 :=
  .ofQuotient 1000 (window.start.toNat + 1) + .ofQuotient 100 window.size.toNat

/-- A position of the term with the given number. -/
structure Occurrence where
  position : UInt32
  term : Nat
  deriving Repr, DecidableEq

/-- The order of occurrences by position, and by term at one position. -/
def Occurrence.le (a b : Occurrence) : Bool :=
  a.position < b.position || (a.position == b.position && a.term ≤ b.term)

/-- The occurrences of all terms in ascending order. -/
def merged (positions : List (List UInt32)) : List Occurrence :=
  (positions.zipIdx.flatMap fun (own, term) => own.map (⟨·, term⟩)).mergeSort Occurrence.le

/-- How many positions there are from `start` to `stop`. -/
def span (start stop : UInt32) : Except Fault UInt32 := do
  checkedAdd (← checkedSub stop start) 1

/-- Of two windows the shorter, and the earlier found of two that are equally short. -/
def shorter (best? : Option Window) (window : Window) : Window :=
  match best? with
  | some best => if window.size < best.size then window else best
  | none => window

/-- How far a scan has come: how often each term occurs between the pointers, how many terms do, the
index of the occurrence at the start, and the best window so far. -/
structure Scan where
  counts : Array Nat
  covered : Nat := 0
  start : Nat := 0
  best? : Option Window := none
  deriving Repr, DecidableEq

/-- Moves the start over occurrences whose terms occur again before the end. -/
def advance (occurrences : Array Occurrence) (counts : Array Nat) (start : Nat) :
    Except Fault (Array Nat × Nat) :=
  if h : start < occurrences.size then do
    let term := occurrences[start].term
    let count ← itemAt counts term
    if 1 < count then
      let fewer ← checkedSub count 1
      advance occurrences (counts.setIfInBounds term fewer) (start + 1)
    else return (counts, start)
  else .error (.indexOutOfBounds occurrences.size start)
termination_by occurrences.size - start

/-- Moves the end over the next occurrence, lets the start follow, and compares the window between
the two once every term occurs there. -/
def Scan.step (occurrences : Array Occurrence) (scan : Scan) (next : Occurrence) :
    Except Fault Scan := do
  let count := (← itemAt scan.counts next.term) + 1
  let covered := if count = 1 then scan.covered + 1 else scan.covered
  let (counts, start) ←
    advance occurrences (scan.counts.setIfInBounds next.term count) scan.start
  if covered = counts.size then
    let first ← itemAt occurrences start
    let size ← span first.position next.position
    return ⟨counts, covered, start, some (shorter scan.best? ⟨first.position, size⟩)⟩
  else return ⟨counts, covered, start, scan.best?⟩

/-- The first of the shortest windows over the positions of all terms.  There is none without
terms, or if a term has no position. -/
def coveringWindow? (positions : List (List UInt32)) : Except Fault (Option Window) := do
  if positions.isEmpty || positions.any List.isEmpty then return none
  else
    let occurrences := merged positions
    let scan ← occurrences.foldlM (Scan.step occurrences.toArray)
      { counts := Array.replicate positions.length 0 }
    return scan.best?

end Retrieval.Rank

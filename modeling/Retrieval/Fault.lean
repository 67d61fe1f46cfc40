/-!
# Faults

A fault is a broken contract: not an answer about the data, but the stop of the computation that
met it.  An operation that can meet one returns `Except Fault`; one that reports on its input as
well returns `Except (Failure E)`, which keeps the two apart.
-/

namespace Retrieval

/-- What a computation stopped at. -/
inductive Fault where
  /-- A sum went past the largest number of its width. -/
  | additionOverflow
  /-- A difference went below zero. -/
  | subtractionOverflow
  /-- There is no item at the index. -/
  | indexOutOfBounds (length index : Nat)
  /-- There is no entry under the key. -/
  | noEntry
  /-- Every id from the proposed one on is taken. -/
  | idsExhausted
  /-- A table without a view from ids to keys was asked for a key. -/
  | noReverseView
  /-- No key is bound to the id. -/
  | unboundId (id : UInt32)
  /-- Two bit rows of different widths met. -/
  | widthMismatch
  /-- The wildcard stands in a list of allowed origins. -/
  | wildcardOrigin
  deriving Repr, DecidableEq

namespace Fault

/-- The words for a fault. -/
def message : Fault → String
  | additionOverflow => "attempt to add with overflow"
  | subtractionOverflow => "attempt to subtract with overflow"
  | indexOutOfBounds length index =>
    s!"index out of bounds: the len is {length} but the index is {index}"
  | noEntry => "no entry found for key"
  | idsExhausted => "symbol id space exhausted"
  | noReverseView => "reverse lookup on a forward-only symbol table"
  | unboundId id => s!"symbol id {id} is not bound"
  | widthMismatch => "bit rows of different widths"
  | wildcardOrigin => "wildcard in a list of allowed origins"

end Fault

/-- A computation that has no result either stopped at a fault or reports an error of type `E`. -/
inductive Failure (E : Type) where
  | fault (fault : Fault)
  | error (error : E)
  deriving Repr, DecidableEq

/-- The words for what there is in place of a result. -/
def Failure.message {E : Type} (describe : E → String) : Failure E → String
  | .fault stop => stop.message
  | .error reason => describe reason

/-- A computation that can only stop, among those that can also report an error. -/
def liftFault {E α : Type} : Except Fault α → Except (Failure E) α
  | .ok value => .ok value
  | .error fault => .error (.fault fault)

/-- A computation that can only report an error, among those that can also stop. -/
def liftError {E α : Type} : Except E α → Except (Failure E) α
  | .ok value => .ok value
  | .error error => .error (.error error)

/-- The sum of two 32-bit numbers, or the fault that it does not fit. -/
def checkedAdd (a b : UInt32) : Except Fault UInt32 :=
  if a.toNat + b.toNat < UInt32.size then .ok (a + b) else .error .additionOverflow

/-- The difference of two numbers, or the fault that it is below zero. -/
def checkedSub {α : Type} [LE α] [DecidableLE α] [Sub α] (a b : α) : Except Fault α :=
  if b ≤ a then .ok (a - b) else .error .subtractionOverflow

/-- The item at an index, or the fault that there is none. -/
def itemAt {α : Type} (items : Array α) (index : Nat) : Except Fault α :=
  match items[index]? with
  | some item => .ok item
  | none => .error (.indexOutOfBounds items.size index)

theorem checkedAdd_of_lt {a b : UInt32} (h : a.toNat + b.toNat < UInt32.size) :
    checkedAdd a b = .ok (a + b) := by
  simp only [checkedAdd, h, if_true]

end Retrieval

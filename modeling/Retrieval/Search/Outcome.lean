import Retrieval.Number.Binary64
import Retrieval.Posting.Representation
import Retrieval.Query.Token

/-!
# What a search comes to

A query is asked in one of two modes, and comes to found documents, to nothing that was asked for,
or to the reason why it is not answered.
-/

namespace Retrieval.Search

open Posting (Representation)
open Query (Operator)

/-- How documents are found. -/
inductive Mode where
  | boolean
  | ranked
  deriving Repr, DecidableEq

namespace Mode

/-- The name of a mode. -/
def name : Mode → String
  | boolean => "boolean"
  | ranked => "ranked"

/-- The mode of a name. -/
def ofName? : String → Option Mode
  | "boolean" => some boolean
  | "ranked" => some ranked
  | _ => none

/-- What is said of a name without a mode. -/
def unknownMessage (name : String) : String :=
  s!"unknown search mode '{name}'"

end Mode

/-- Why a query that can be read is not answered. -/
inductive Unsupported where
  /-- A ranked query may not hold this operator. -/
  | operator (op : Operator)
  /-- Ranking needs positions, which this layout does not keep. -/
  | layout (representation : Representation)
  deriving Repr, DecidableEq

namespace Unsupported

/-- The words for the error. -/
def message : Unsupported → String
  | operator op =>
    let op := op.symbol
    s!"ranked search takes conjunctive queries only, found '{op}'"
  | layout representation =>
    let representation := representation.name
    s!"ranked search needs positional postings, index has {representation}"

end Unsupported

/-- A found document; ranked ones have a score. -/
structure Hit where
  doc : UInt32
  url : String
  score? : Option Binary64
  deriving Repr, DecidableEq

/-- Found documents, and how many were found before the list was cut. -/
structure Hits where
  total : Nat
  hits : List Hit
  deriving Repr, DecidableEq

/-- What a search comes to. -/
inductive Outcome where
  | emptyQuery
  | found (hits : Hits)
  deriving Repr, DecidableEq

end Retrieval.Search

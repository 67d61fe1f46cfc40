/-!
# Representations of postings

Postings come in three interchangeable layouts, chosen when an index is built.
-/

namespace Retrieval.Posting

/-- The layout of postings. -/
inductive Representation where
  /-- A row of bits for each term, one bit for each document. -/
  | bitset
  /-- The set of documents of each term. -/
  | docSet
  /-- The positions of each term in each document. -/
  | positional
  deriving Repr, DecidableEq

namespace Representation

/-- The name of a layout. -/
def name : Representation → String
  | bitset => "bitset"
  | docSet => "doc_set"
  | positional => "positional"

/-- The layout of a name; sets of documents have two further names. -/
def ofName? : String → Option Representation
  | "bitset" => some bitset
  | "doc_set" | "doc-set" | "set" => some docSet
  | "positional" => some positional
  | _ => none

/-- What is said of a name without a layout. -/
def unknownMessage (name : String) : String :=
  s!"unknown posting representation '{name}'"

theorem ofName?_name (r : Representation) : ofName? r.name = some r := by
  cases r <;> rfl

end Representation

end Retrieval.Posting

import Retrieval.Posting.Bitset
import Retrieval.Posting.Representation

/-!
# Posting stores

A posting store records which terms occur in which documents.  Its layout decides what else it
knows: bit rows know documents in which no term occurs, and positional postings the positions of
each occurrence.  Recording is the only change, and nothing that was recorded is lost.
-/

namespace Retrieval.Posting

/-- The set of documents of each term. -/
abbrev DocSets := IdMap IdSet

/-- The positions of each term in each document. -/
abbrev Positions := IdMap (IdMap (List UInt32))

namespace DocSets

/-- Records a term in a document. -/
def record (rows : DocSets) (term doc : UInt32) : DocSets :=
  rows.alter term fun row? => (row?.getD .empty).insert doc

/-- The documents of a term. -/
def docsFor (rows : DocSets) (term : UInt32) : IdSet :=
  (rows.get? term).getD .empty

end DocSets

namespace Positions

/-- Records positions of a term in a document, after those recorded before. -/
def record (rows : Positions) (term doc : UInt32) (positions : List UInt32) : Positions :=
  rows.alter term fun row? =>
    (row?.getD .empty).alter doc fun known? => known?.getD [] ++ positions

/-- The positions of a term in a document, if it was recorded there. -/
def positions? (rows : Positions) (term doc : UInt32) : Option (List UInt32) :=
  (rows.get? term).bind (·.get? doc)

/-- The documents of a term. -/
def docsFor (rows : Positions) (term : UInt32) : IdSet :=
  ((rows.get? term).map IdMap.keys).getD .empty

end Positions

/-- Postings in one of the layouts. -/
inductive Store where
  | bitset (rows : Bitset)
  | docSet (rows : DocSets)
  | positional (rows : Positions)
  deriving DecidableEq

namespace Store

/-- The store without postings. -/
def empty : Representation → Store
  | .bitset => .bitset {}
  | .docSet => .docSet .empty
  | .positional => .positional .empty

/-- The layout of a store. -/
def representation : Store → Representation
  | bitset _ => .bitset
  | docSet _ => .docSet
  | positional _ => .positional

/-- Makes a document known even if no term occurs in it, which matters to bit rows alone. -/
def register (store : Store) (doc : UInt32) : Store :=
  match store with
  | bitset rows => .bitset (rows.register doc)
  | store => store

/-- Records a term in a document.  Only positional postings keep the positions. -/
def record (store : Store) (term doc : UInt32) (positions : List UInt32) : Store :=
  match store with
  | bitset rows => .bitset (rows.record term doc)
  | docSet rows => .docSet (rows.record term doc)
  | positional rows => .positional (rows.record term doc positions)

/-- Whether the term was recorded in the document. -/
def contains (store : Store) (term doc : UInt32) : Bool :=
  match store with
  | bitset rows => rows.contains term doc
  | docSet rows => (rows.docsFor term).contains doc
  | positional rows => (rows.docsFor term).contains doc

/-- The documents of a term. -/
def docsFor (store : Store) (term : UInt32) : IdSet :=
  match store with
  | bitset rows => rows.docsFor term
  | docSet rows => rows.docsFor term
  | positional rows => rows.docsFor term

/-- The recorded terms. -/
def terms (store : Store) : IdSet :=
  match store with
  | bitset rows => rows.rows.keys
  | docSet rows => rows.keys
  | positional rows => rows.keys

/-- How many terms were recorded. -/
def termCount (store : Store) : Nat :=
  store.terms.card

/-- Every document that the store refers to. -/
def referenced (store : Store) : IdSet :=
  match store with
  | bitset rows => IdSet.ofList rows.documents
  | docSet rows => IdSet.ofList (rows.entries.flatMap fun entry => entry.2.toList)
  | positional rows => IdSet.ofList (rows.entries.flatMap fun entry => entry.2.keys.toList)

end Store

end Retrieval.Posting

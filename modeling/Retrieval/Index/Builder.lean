import Retrieval.Index.Basic
import Retrieval.Stem.Language

/-!
# Building an index

Documents are added one after the other.  The first gets the id 1, and every further call one more,
whether its document is accepted or not: a document whose address is already known is skipped.
New lemmas get ids from 1 on without gaps, and the position of a token is its place, from 1 on,
among the tokens of its document, tokens with an empty lemma included.

The way from text to tokens and from tokens to lemmas is a parameter.
-/

namespace Retrieval

open Posting (Representation Store)

/-- How text becomes what is indexed: its tokens, and the lemma of each. -/
structure Analysis where
  normalize : String → List String
  lemmatize : Stem.Lemmatizer

/-- An index being built. -/
structure Builder where
  index : Index
  /-- The id for the next document. -/
  nextDoc : UInt32 := 1
  /-- The id for the next new lemma. -/
  nextTerm : UInt32 := 1
  /-- How many documents were skipped. -/
  skipped : Nat := 0
  deriving DecidableEq

namespace Builder

/-- A builder without documents. -/
def empty (representation : Representation) : Builder :=
  { index := .empty representation }

/-- The terms bound so far, the id for the next one, and the positions of each term seen in the
document that is being added. -/
structure Occurrences where
  terms : Symbol.Table
  nextTerm : UInt32
  positions : IdMap (List UInt32) := .empty

/-- Adds a lemma that follows `offset` tokens of its document. -/
def Occurrences.add (seen : Occurrences) (stemmed : String) (offset : Nat) :
    Except Fault Occurrences := do
  let (term, terms) ← seen.terms.insert stemmed seen.nextTerm
  let nextTerm ← if seen.nextTerm ≤ term then checkedAdd term 1 else pure seen.nextTerm
  let position ← checkedAdd (UInt32.ofNat offset) 1
  return ⟨terms, nextTerm, seen.positions.alter term (·.getD [] ++ [position])⟩

/-- Adds the lemmas of tokens, the first of which follows `offset` tokens of its document. -/
def Occurrences.addAll (lemmatize : Stem.Lemmatizer) (seen : Occurrences) (offset : Nat) :
    List String → Except Fault Occurrences
  | [] => .ok seen
  | token :: rest => do
    let stemmed := lemmatize token
    let seen ← if stemmed.isEmpty then pure seen else seen.add stemmed offset
    seen.addAll lemmatize (offset + 1) rest

/-- Records the positions of all terms of a document. -/
def recordAll (postings : Store) (doc : UInt32) (positions : IdMap (List UInt32)) : Store :=
  positions.entries.foldl (fun store entry => store.record entry.1 doc entry.2) postings

/-- Adds a document and yields its id, or nothing if its address was known. -/
def addDocument (analysis : Analysis) (builder : Builder) (url content : String) :
    Except Fault (Option UInt32 × Builder) := do
  let proposed := builder.nextDoc
  let nextDoc ← checkedAdd proposed 1
  let index := builder.index
  if (index.docs.lookup url).isSome then
    return (none, { builder with nextDoc, skipped := builder.skipped + 1 })
  else
    let (doc, docs) ← index.docs.insert url proposed
    let seen ← (⟨index.terms, builder.nextTerm, .empty⟩ : Occurrences).addAll
      analysis.lemmatize 0 (analysis.normalize content)
    let postings := recordAll (index.postings.register doc) doc seen.positions
    return (some doc,
      { builder with index := ⟨seen.terms, docs, postings⟩, nextDoc, nextTerm := seen.nextTerm })

end Builder

end Retrieval

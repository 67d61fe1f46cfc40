import Mathlib.Tactic.Common
import Retrieval.Proofs.Index.Build
import Retrieval.Proofs.Query.Postfix
import Retrieval.Text.Normalize

/-!
# Boolean search against the corpus

`boolean_eq` tells what a boolean search lists in terms of the index.  Here the index is gone: what
is found is told of the records that were added.  A document satisfies a query if the tree of the
query holds when each term is read as "is one of the document's stems", and a search finds exactly
the accepted documents that satisfy it, in every layout.

The empty term needs a word.  An index never holds it, so a document whose stems include the empty
one must not satisfy a query for it; but no query asks for it, since the lexer makes no empty terms.
-/

namespace Retrieval

open Corpus (Document Record accepted ids)
open Posting (Representation)
open Query (Tree tokenize)

namespace Search

/-! ## The answer to a query -/

/-- No tokens ask for nothing. -/
lemma isEmpty_of_parse?_ne {tokens : List Query.Token} (h : Tree.parse? tokens ≠ .ok none) :
    tokens.isEmpty = false := by
  cases tokens with
  | nil => exact absurd rfl h
  | cons token rest => rfl

lemma search_of_parse? {index : Index} {lemmatizer : Stem.Lemmatizer} {query : String}
    {tree : Tree} (h : Tree.parse? (tokenize lemmatizer query) = .ok (some tree)) :
    index.search lemmatizer query .boolean = (liftFault (boolean index tree)).map .found := by
  have hsome : (tokenize lemmatizer query).isEmpty = false :=
    isEmpty_of_parse?_ne (by simp [h])
  simp only [Index.search, answer, hsome, Bool.false_eq_true, if_false, h, Except.mapError,
    liftError, ok_bind]
  rfl

lemma search_of_parse?_error {index : Index} {lemmatizer : Stem.Lemmatizer} {query : String}
    {reason : Query.SyntaxError} (h : Tree.parse? (tokenize lemmatizer query) = .error reason) :
    index.search lemmatizer query .boolean = .error (.error (.malformed reason)) := by
  have hsome : (tokenize lemmatizer query).isEmpty = false :=
    isEmpty_of_parse?_ne (by simp [h])
  simp only [Index.search, answer, hsome, Bool.false_eq_true, if_false, h, Except.mapError,
    liftError, error_bind]

lemma search_of_parse?_none {index : Index} {lemmatizer : Stem.Lemmatizer} {query : String}
    (h : Tree.parse? (tokenize lemmatizer query) = .ok none) :
    index.search lemmatizer query .boolean = .ok .emptyQuery := by
  simp only [Index.search, answer, h, Except.mapError, liftError, ok_bind]
  exact ite_self _

/-! ## What is found -/

/-- Whether a document satisfies a tree: a term holds of it if it is one of its stems. -/
def satisfies (analysis : Analysis) (tree : Tree) (document : Document) : Bool :=
  tree.holds fun term => decide (term ∈ document.stems analysis)

/-- How a boolean search reports a document. -/
def reported (document : Document) : Hit :=
  ⟨document.id, document.url, none⟩

/-- The outcome of a boolean search for a tree on an index that was built from records. -/
theorem boolean_of_describes {analysis : Analysis} {representation : Representation}
    {records : List Record} {builder : Builder} {tree : Tree}
    (h : Builder.Describes analysis representation records builder)
    (hleaves : ∀ value ∈ tree.leaves, value ≠ "") :
    boolean builder.index tree
      = .ok ⟨((accepted records).filter (satisfies analysis tree)).length,
          inOrder representation
            (((accepted records).filter (satisfies analysis tree)).map reported)⟩ := by
  have hfound : builder.index.docs.byId.filter
        (fun entry => tree.holds (builder.index.hasTerm entry.1))
      = ((accepted records).filter (satisfies analysis tree)).map fun d => (d.id, d.url) := by
    rw [h.byId_docs, List.filter_map]
    congr 1
    refine List.filter_congr fun document hdocument => ?_
    exact Tree.holds_congr fun name hname => h.hasTerm hdocument (hleaves name hname)
  rw [boolean_eq h.consistent, hfound, h.representation, List.length_map, List.map_map]
  rfl

/-- **Boolean search is correct against the corpus.**  Let records be added that can be numbered,
and let a query be read as a tree.  Then there is one ascending list of hits, one for each accepted
document that satisfies the tree, such that in every layout all records are added and the search
finds these hits: descending over bit rows, ascending otherwise. -/
theorem boolean_search_finds_satisfying {analysis : Analysis} {records : List Record}
    (hfits : Corpus.Fits analysis records) {lemmatizer : Stem.Lemmatizer} {query : String}
    {tree : Tree} (hquery : Tree.parse? (Query.tokenize lemmatizer query) = .ok (some tree)) :
    ∃ hits : List Hit,
      (∀ hit, hit ∈ hits ↔ ∃ document ∈ accepted records,
        satisfies analysis tree document = true ∧ hit = reported document) ∧
      hits.Pairwise (·.doc < ·.doc) ∧
      ∀ representation, ∃ builder,
        (Builder.empty representation).addAll analysis records = .ok (ids records, builder) ∧
        builder.index.search lemmatizer query .boolean
          = .ok (.found ⟨hits.length, inOrder representation hits⟩) := by
  refine ⟨((accepted records).filter (satisfies analysis tree)).map reported, ?_, ?_, ?_⟩
  · intro hit
    rw [List.mem_map]
    constructor
    · rintro ⟨document, hdocument, rfl⟩
      obtain ⟨haccepted, hsatisfies⟩ := List.mem_filter.mp hdocument
      exact ⟨document, haccepted, hsatisfies, rfl⟩
    · rintro ⟨document, haccepted, hsatisfies, rfl⟩
      exact ⟨document, List.mem_filter.mpr ⟨haccepted, hsatisfies⟩, rfl⟩
  · rw [List.pairwise_map]
    exact (List.pairwise_map.mp (Corpus.ascending_ids hfits.calls)).filter _
  · intro representation
    obtain ⟨builder, hadd, hbuilder⟩ := Builder.exists_addAll hfits representation
    refine ⟨builder, hadd, ?_⟩
    have hanswer := boolean_of_describes hbuilder fun _ hvalue =>
      Query.ne_empty_of_mem_leaves hquery hvalue
    rw [search_of_parse? hquery, hanswer, List.length_map]
    rfl

/-- A corpus of three records, the last of which repeats an address, and the words of a text for its
stems. -/
theorem boolean_search_finds_without_cat :
    let analysis : Analysis := ⟨Text.normalize, id⟩
    let records : List Record := [⟨"a", "Red fox"⟩, ⟨"b", "red Cat, fox"⟩, ⟨"a", "fox"⟩]
    let tree : Tree := .and (.term "fox") (.not (.term "cat"))
    ∃ hits : List Hit,
      (∀ hit, hit ∈ hits ↔ ∃ document ∈ accepted records,
        satisfies analysis tree document = true ∧ hit = reported document) ∧
      hits.Pairwise (·.doc < ·.doc) ∧
      ∀ representation, ∃ builder,
        (Builder.empty representation).addAll analysis records = .ok (ids records, builder) ∧
        builder.index.search id "fox AND !(cat)" .boolean
          = .ok (.found ⟨hits.length, inOrder representation hits⟩) := by
  intro analysis records tree
  have hfits : Corpus.Fits analysis records :=
    ⟨by decide +kernel, by decide +kernel, by decide +kernel⟩
  exact boolean_search_finds_satisfying hfits (by decide +kernel)

end Search

end Retrieval

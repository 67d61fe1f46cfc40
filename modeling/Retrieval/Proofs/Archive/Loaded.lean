import Retrieval.Proofs.Archive.Loading
import Retrieval.Proofs.Archive.Outcome
import Retrieval.Proofs.Posting.Decoding
import Retrieval.Proofs.Search.Boolean

/-!
# Whatever is loaded is consistent

The artifacts may hold anything, and nothing makes one of them fit another but the checks of
loading.  Still an index that is loaded is consistent: its table of documents comes of insertions,
its postings come of recording, and the parts are joined only if the postings refer to no document
that is not bound.  What a builder knows beside that is not needed, so the boolean search over a
loaded index is correct like that over a built one (`loaded_index_is_sound`).
-/

namespace Retrieval

open Archive (FileError Meta Path Paths load)
open Posting (Store)
open Query (Tree tokenize)
open Retrieval.Symbol (Table)

namespace Index

/-- Parts that are joined agree, and the bound documents are registered. -/
lemma ofParts_eq_ok {terms docs : Table} {postings : Store} {index : Index}
    (h : ofParts terms docs postings = .ok index) :
    docs.mode = .reversible ∧ (∀ doc ∈ postings.referenced, doc ∈ docs.ids) ∧
      index = ⟨terms, docs, postings.registerEach (IdSet.ofList docs.ids).toList⟩ := by
  rw [ofParts] at h
  split at h
  · cases h
  · rename_i hmode
    dsimp only at h
    split at h
    · cases h
    · rename_i hnone
      cases h
      refine ⟨hmode, fun doc hdoc => ?_, rfl⟩
      by_contra hunknown
      have horphan : doc ∈ postings.referenced.diff (IdSet.ofList docs.ids) :=
        IdSet.mem_diff.mpr ⟨hdoc, fun hknown => hunknown (IdSet.mem_ofList.mp hknown)⟩
      rw [IdSet.mem_def, hnone] at horphan
      cases horphan

/-- **Parts make a consistent index**, if the table of documents and the postings have the
invariants that they are read with. -/
theorem consistent_of_ofParts {terms docs : Table} {postings : Store} {index : Index}
    (hdocs : docs.Coherent) (hpostings : postings.Canonical)
    (h : ofParts terms docs postings = .ok index) : index.Consistent := by
  obtain ⟨hmode, hknown, rfl⟩ := ofParts_eq_ok h
  rw [IdSet.toList_ofList hdocs.ascending]
  refine ⟨hmode, hdocs.ascending, Store.canonical_registerEach hpostings _, fun hdoc => ?_,
    fun hbitset => ?_⟩
  · rw [Store.docsFor_registerEach hpostings] at hdoc
    exact hknown _ (Store.mem_referenced.mpr (Or.inl ⟨_, hdoc⟩))
  · rw [Store.representation_registerEach] at hbitset
    exact Store.registered_registerEach_of_subset hpostings hbitset hdocs.ascending fun doc hdoc =>
      hknown doc (Store.mem_referenced.mpr (Or.inr ⟨hbitset, hdoc⟩))

end Index

namespace Search

/-- Over a consistent index whose table of documents is coherent, a boolean search lists the bound
documents that satisfy the tree, each once and with its address. -/
lemma exists_boolean_eq {index : Index} (h : index.Consistent) (hdocs : index.docs.Coherent)
    (tree : Tree) :
    ∃ hits : List Hit, boolean index tree = .ok ⟨hits.length, hits⟩ ∧ (hits.map (·.doc)).Nodup ∧
      ∀ hit, hit ∈ hits ↔ index.docs.lookup hit.url = some hit.doc ∧ hit.score? = none ∧
        tree.holds (index.hasTerm hit.doc) = true := by
  have hanswer := boolean_eq h tree
  set found := index.docs.byId.filter fun entry => tree.holds (index.hasTerm entry.1) with hfound
  have hlisted : ∀ doc url, (doc, url) ∈ index.docs.byId ↔ index.docs.lookup url = some doc := by
    intro doc url
    rw [← hdocs.lookup_byId h.reversible, lookup_eq_some_iff_mem hdocs.nodup_ids]
  refine ⟨inOrder index.postings.representation
    (found.map fun entry => ⟨entry.1, entry.2, none⟩), ?_, ?_, fun hit => ?_⟩
  · rw [hanswer, length_inOrder, List.length_map]
  · rw [map_inOrder, List.map_map, nodup_inOrder]
    show (found.map Prod.fst).Nodup
    exact hdocs.nodup_ids.sublist (List.filter_sublist.map Prod.fst)
  · rw [mem_inOrder, List.mem_map, hfound]
    constructor
    · rintro ⟨⟨doc, url⟩, hentry, rfl⟩
      obtain ⟨hentry, hholds⟩ := List.mem_filter.mp hentry
      exact ⟨(hlisted doc url).mp hentry, rfl, hholds⟩
    · rintro ⟨hbound, hscore, hholds⟩
      refine ⟨(hit.doc, hit.url), List.mem_filter.mpr ⟨(hlisted _ _).mpr hbound, hholds⟩, ?_⟩
      rw [← hscore]

/-- What a boolean search must answer to a query: a syntax error, nothing for a query without terms,
or all bound documents that satisfy its tree, each once and with its address. -/
def AnsweredFully (index : Index) (lemmatizer : Stem.Lemmatizer) (query : String) : Prop :=
  match Tree.parse? (tokenize lemmatizer query) with
  | .error reason => index.search lemmatizer query .boolean = .error (.error (.malformed reason))
  | .ok none => index.search lemmatizer query .boolean = .ok .emptyQuery
  | .ok (some tree) => ∃ hits : List Hit,
      index.search lemmatizer query .boolean = .ok (.found ⟨hits.length, hits⟩) ∧
      (hits.map (·.doc)).Nodup ∧
      ∀ hit, hit ∈ hits ↔ index.docs.lookup hit.url = some hit.doc ∧ hit.score? = none ∧
        tree.holds (index.hasTerm hit.doc) = true

/-- **Consistency is all that boolean search needs.**  Over a consistent index whose table of
documents is coherent, every query is answered fully. -/
theorem answeredFully_of_consistent {index : Index} (h : index.Consistent)
    (hdocs : index.docs.Coherent) (lemmatizer : Stem.Lemmatizer) (query : String) :
    AnsweredFully index lemmatizer query := by
  unfold AnsweredFully
  cases hparse : Tree.parse? (tokenize lemmatizer query) with
  | error reason => exact search_of_parse?_error hparse
  | ok found =>
    cases found with
    | none => exact search_of_parse?_none hparse
    | some tree =>
      obtain ⟨hits, hanswer, hfound⟩ := exists_boolean_eq h hdocs tree
      refine ⟨hits, ?_, hfound⟩
      rw [search_of_parse? hparse, hanswer]
      rfl

end Search

namespace Archive

/-- The parts of an index that is loaded fit together. -/
lemma consistent_of_load {read : Path → Except FileError (List UInt8)} {paths : Paths}
    {index : Index} {info : Meta} (h : load read paths = .ok (index, info)) :
    index.Consistent ∧ index.docs.Coherent := by
  obtain ⟨terms, docs, postings, hfrom, hjoined⟩ := load_eq_ok h
  obtain ⟨docOctets, -, hdocs⟩ := hfrom.readsDocs
  obtain ⟨postingOctets, -, hpostings⟩ := hfrom.readsPostings
  obtain ⟨hcoherent, -⟩ := Table.coherent_of_decode hdocs
  refine ⟨Index.consistent_of_ofParts hcoherent (Store.canonical_of_decode hpostings) hjoined, ?_⟩
  obtain ⟨-, -, rfl⟩ := Index.ofParts_eq_ok hjoined
  exact hcoherent

/-- **Whatever is loaded is sound.**  Let an index be loaded with its metadata, from files of any
contents.  Then the metadata describes it, no two documents share an id, every document that the
postings refer to is bound to an address, bit rows have exactly the bound documents for slots, in
ascending order, and a boolean search answers every query fully. -/
theorem loaded_index_is_sound {read : Path → Except FileError (List UInt8)} {paths : Paths}
    {index : Index} {info : Meta} (h : load read paths = .ok (index, info)) :
    index.DescribedBy info ∧
      (index.docs.entries.map Prod.snd).Nodup ∧
      (∀ doc ∈ index.postings.referenced, ∃ url, index.docs.lookup url = some doc) ∧
      (index.postings.representation = .bitset →
        index.postings.registered.Pairwise (· < ·) ∧
        ∀ doc, doc ∈ index.postings.registered ↔ ∃ url, index.docs.lookup url = some doc) ∧
      ∀ lemmatizer query, Search.AnsweredFully index lemmatizer query := by
  obtain ⟨hconsistent, hcoherent⟩ := consistent_of_load h
  obtain ⟨terms, docs, postings, hfrom, hjoined⟩ := load_eq_ok h
  obtain ⟨infoOctets, -, hinfo⟩ := hfrom.readsInfo
  obtain ⟨postingOctets, -, hpostings⟩ := hfrom.readsPostings
  obtain ⟨-, -, rfl⟩ := Index.ofParts_eq_ok hjoined
  have hmode := hconsistent.reversible
  refine ⟨⟨hfrom.numDocs.symm, hfrom.numTerms.symm, ?_, Meta.version_of_read hinfo⟩,
    hcoherent.nodup_values hmode, fun doc hdoc => ?_, fun hbitset => ?_, ?_⟩
  · rw [Store.representation_registerEach, Store.representation_of_decode hpostings]
  · exact (hcoherent.mem_ids hmode).mp (hconsistent.mem_ids_of_referenced hdoc)
  · rw [hconsistent.registered hbitset]
    exact ⟨hcoherent.ascending, fun doc => hcoherent.mem_ids hmode⟩
  · exact Search.answeredFully_of_consistent hconsistent hcoherent

/-- Files that no index was saved to: a document comes twice, two documents propose one id, and the
postings list a term twice and its documents out of order. -/
theorem sound_despite_repeated_entries :
    let words : List UInt8 := [1, 0, 0, 0, 3, 0, 0, 0, 0x66, 0x6f, 0x78, 7, 0, 0, 0]
    let docs : List UInt8 := [4, 0, 0, 0,
      1, 0, 0, 0, 0x61, 5, 0, 0, 0, 1, 0, 0, 0, 0x62, 5, 0, 0, 0,
      1, 0, 0, 0, 0x61, 9, 0, 0, 0, 1, 0, 0, 0, 0x63, 1, 0, 0, 0]
    let postings : List UInt8 := [2, 0, 0, 0,
      7, 0, 0, 0, 2, 0, 0, 0, 6, 0, 0, 0, 0, 0, 0, 0, 5, 0, 0, 0, 0, 0, 0, 0,
      7, 0, 0, 0, 1, 0, 0, 0, 6, 0, 0, 0, 0, 0, 0, 0]
    let info : Meta := ⟨3, 1, .bitset, "", Meta.formatVersion, Meta.defaultLanguage⟩
    let read : Path → Except FileError (List UInt8) := fun path =>
      if path = "meta.json" then .ok (Utf8.encode info.text)
      else if path = "words.dic" then .ok words
      else if path = "docs.dic" then .ok docs
      else .ok postings
    let index : Index := ⟨⟨.forward, [("fox", 7)], []⟩,
      ⟨.reversible, [("a", 5), ("b", 6), ("c", 1)], [(1, "c"), (5, "a"), (6, "b")]⟩,
      .bitset ⟨[1, 5, 6], ⟨[(7, [false, true, true])], by decide⟩⟩⟩
    load read (.ofRoot "") = .ok (index, info) ∧
      index.DescribedBy info ∧
      (index.docs.entries.map Prod.snd).Nodup ∧
      (∀ doc ∈ index.postings.referenced, ∃ url, index.docs.lookup url = some doc) ∧
      (index.postings.representation = .bitset →
        index.postings.registered.Pairwise (· < ·) ∧
        ∀ doc, doc ∈ index.postings.registered ↔ ∃ url, index.docs.lookup url = some doc) ∧
      ∀ lemmatizer query, Search.AnsweredFully index lemmatizer query := by
  intro words docs postings info read index
  have hload : load read (.ofRoot "") = .ok (index, info) := by decide +kernel
  exact ⟨hload, loaded_index_is_sound hload⟩

end Archive

end Retrieval

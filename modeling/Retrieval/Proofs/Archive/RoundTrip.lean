import Retrieval.Proofs.Archive.Loading
import Retrieval.Proofs.Archive.Resaving
import Retrieval.Proofs.Index.Build
import Retrieval.Text.Normalize

/-!
# What was built and saved is loaded

An index that was built from records can be loaded from its artifacts: its parts fit together, its
documents were bound in ascending order of their ids, and no key was bound twice
(`Describes.loadable`).  It has artifacts as soon as its keys and its lists of positions can be
counted in a frame; the counts of documents and terms always can, since the builder numbers them
with 32 bits (`Describes.exists_encode`).

With what saving does to files, `saved_index_loads_back` says in full that saving and loading is the
identity as far as anyone can see: the documents, the postings and the metadata are the same, so are
the terms in their order, no search tells the difference, and saving what was loaded writes the same
octets again.
-/

namespace Retrieval

open Archive (Artifacts FileSystem Meta Path Paths load save)
open Corpus (Record accepted terms)
open Posting (Representation Store)
open Retrieval.Symbol (Table)

namespace Index

/-- Whether the keys of an index and its lists of positions can be counted in frames. -/
structure Framable (index : Index) : Prop where
  termKeys : ∀ entry ∈ index.terms.entries, Table.Framable entry.1
  docKeys : ∀ entry ∈ index.docs.entries, Table.Framable entry.1
  positions : ∀ {term doc positions}, index.postings.positions? term doc = some positions →
    positions.length < UInt32.size

end Index

namespace Builder.Describes

variable {analysis : Analysis} {representation : Representation} {records : List Record}
  {builder : Builder}

/-! ## A built index can be loaded -/

/-- **A built index can be loaded** from its artifacts. -/
theorem loadable (h : Describes analysis representation records builder) :
    builder.index.Loadable where
  consistent := h.consistent
  listed := by rw [h.docs, Table.entries_listed]
  docKeys := by
    rw [h.keys_docs]
    exact Corpus.nodup_urls_accepted records
  termKeys := by
    rw [h.keys_terms]
    exact nodup_distinct _

/-! ## A built index has artifacts -/

lemma size_docs_lt (h : Describes analysis representation records builder) :
    builder.index.docs.size < UInt32.size := by
  have hlength := Corpus.length_accepted_le records
  have hcalls := h.calls
  rw [h.docs, Table.size, Table.entries_listed, List.length_map]
  omega

lemma size_terms_lt (h : Describes analysis representation records builder) :
    builder.index.terms.size < UInt32.size := by
  have hbound := h.numbers.bound
  rw [Table.size, ← List.length_map (f := Prod.fst), h.keys_terms]
  omega

/-- The postings list no more terms than are bound, and no more documents of a term than are. -/
lemma listing_lt (h : Describes analysis representation records builder) :
    builder.index.postings.listing.length < UInt32.size ∧
      ∀ entry ∈ builder.index.postings.listing, entry.2.length < UInt32.size := by
  have hterms : ∀ {term doc}, doc ∈ builder.index.postings.docsFor term →
      term ∈ builder.index.terms.entries.map Prod.snd := by
    intro term doc hdoc
    obtain ⟨document, -, -, stem, -, hbinds⟩ := h.recorded.docsFor.mp hdoc
    rw [Occurrences.bindsTo, decide_eq_true_iff] at hbinds
    have hkeys : (builder.index.terms.entries.map Prod.fst).Nodup := h.loadable.termKeys
    exact List.mem_map_of_mem ((lookup_eq_some_iff_mem hkeys).mp hbinds.2)
  have hdocs : ∀ {term doc}, doc ∈ builder.index.postings.docsFor term →
      doc ∈ builder.index.docs.ids := h.consistent.bound
  have hsizes := And.intro h.size_terms_lt h.size_docs_lt
  rw [Table.size, Table.size] at hsizes
  refine ⟨?_, fun entry hentry => ?_⟩
  · have hlength := Store.length_listing_le h.consistent.canonical hterms
    rw [List.length_map] at hlength
    omega
  · have hlength := Store.length_listed_le hdocs hentry
    rw [h.loadable.ids_eq, List.length_map] at hlength
    omega

/-- **A built index has artifacts**, if its keys and lists of positions can be counted. -/
theorem exists_encode (h : Describes analysis representation records builder)
    (hframable : builder.index.Framable) (info : Meta) :
    ∃ artifacts, Artifacts.encode builder.index info = .ok artifacts := by
  obtain ⟨words, hwords⟩ := Table.exists_encode h.size_terms_lt hframable.termKeys
  obtain ⟨docs, hdocs⟩ := Table.exists_encode h.size_docs_lt hframable.docKeys
  have hlisting := h.listing_lt
  have hpostings : Posting.Framable builder.index.postings.listing := by
    refine ⟨hlisting.1, fun entry hentry => ⟨hlisting.2 entry hentry, fun found hfound => ?_⟩⟩
    obtain ⟨-, hpositions⟩ := Store.mem_docsFor_of_listed hentry hfound
    cases hheld : builder.index.postings.positions? entry.1 found.1 with
    | none =>
      rw [hheld] at hpositions
      rw [← hpositions]
      decide
    | some positions =>
      rw [hheld] at hpositions
      rw [← hpositions]
      exact hframable.positions hheld
  exact ⟨⟨words, docs, _, Utf8.encode info.text⟩,
    Archive.encode_eq_ok.mpr ⟨hwords, hdocs, Store.encode_eq_ok.mpr ⟨hpostings, rfl⟩, rfl⟩⟩

end Builder.Describes

namespace Archive

/-! ## The files -/

/-- **Saving the same artifacts again** over saved ones succeeds and leaves every file as it is. -/
lemma exists_save_again {fs fs' : FileSystem} {root : Path} {index other : Index} {info : Meta}
    (h : save fs (.ofRoot root) index info = (fs', .ok ()))
    (hsame : Artifacts.encode other info = Artifacts.encode index info) :
    ∃ later, save fs' (.ofRoot root) other info = (later, .ok ()) ∧
      ∀ path ∈ (Paths.ofRoot root).all, later.fetch path = fs'.fetch path := by
  obtain ⟨artifacts, hencode, hperform⟩ := save_eq_ok.mp h
  obtain ⟨later, hagain⟩ := exists_performAll_savePlan (ready_of_savePlan hperform)
  have hsave : save fs' (.ofRoot root) other info = (later, .ok ()) :=
    save_eq_ok.mpr ⟨artifacts, hsame.trans hencode, hagain⟩
  refine ⟨later, hsave, fun path hpath => ?_⟩
  obtain ⟨octets, hplaced⟩ := exists_placed artifacts hpath
  have hread : ∀ {before after : FileSystem} {saved : Index},
      Artifacts.encode saved info = .ok artifacts →
      save before (.ofRoot root) saved info = (after, .ok ()) → after.fetch path = .ok octets := by
    intro before after saved hsaved hsave
    obtain ⟨found, hfound, hfetch⟩ := fetch_of_save hsave
    obtain rfl := Except.ok.inj (hsaved.symm.trans hfound)
    exact hfetch _ hplaced
  rw [hread (hsame.trans hencode) hsave, hread hencode h]

/-! ## The round trip -/

/-- **Saving and loading is the identity.** Let records be added to an empty builder of any layout,
and let its index be saved below any root, with metadata that describes it.  Nothing but the file
system can keep it from being saved, if its keys and lists of positions can be counted.  Once it is
saved, an index is loaded from the files with the same metadata: its documents and its postings are
the same, its terms are the same in the same order, every search in either mode comes to the same,
and it is saved like the first one wherever it is saved.  Saved over the files it was loaded from,
it leaves them as they are. -/
theorem saved_index_loads_back {analysis : Analysis} {representation : Representation}
    {records : List Record} {answers : List (Option UInt32)} {builder : Builder}
    (hbuild : (Builder.empty representation).addAll analysis records = .ok (answers, builder))
    (createdAt language : String) :
    let index := builder.index
    let info := Meta.describe index createdAt language
    (index.Framable → ∃ artifacts, Artifacts.encode index info = .ok artifacts) ∧
    ∀ (fs fs' : FileSystem) (root : Path), save fs (.ofRoot root) index info = (fs', .ok ()) →
      ∃ loaded, load fs'.fetch (.ofRoot root) = .ok (loaded, info) ∧
        loaded.docs = index.docs ∧ loaded.postings = index.postings ∧
        loaded.terms.entries = index.terms.entries ∧ loaded.terms.mode = .forward ∧
        (∀ lemmatizer query mode,
          loaded.search lemmatizer query mode = index.search lemmatizer query mode) ∧
        (∀ other paths, save other paths loaded info = save other paths index info) ∧
        ∃ later, save fs' (.ofRoot root) loaded info = (later, .ok ()) ∧
          ∀ path ∈ (Paths.ofRoot root).all, later.fetch path = fs'.fetch path := by
  intro index info
  obtain ⟨-, h⟩ := (Builder.Describes.empty analysis representation).addAll hbuild
  refine ⟨fun hframable => h.exists_encode hframable info, fun fs fs' root hsave => ?_⟩
  have hinfo : index.DescribedBy info :=
    Index.describedBy_describe h.size_docs_lt h.size_terms_lt createdAt language
  obtain ⟨artifacts, hencode, hfetch⟩ := fetch_of_save hsave
  have hforward := Index.encode_forward index info
  refine ⟨index.forward, load_encode h.loadable hinfo hencode hfetch, rfl, rfl, rfl, rfl,
    index.search_forward, fun other paths => ?_, exists_save_again hsave hforward⟩
  rw [save, save, hforward]

/-- An index of bit rows with a document that holds no term, built from records of which the last
repeats an address, and saved below a directory that is not there yet. -/
theorem termless_document_loads_back :
    let analysis : Analysis := ⟨Text.normalize, id⟩
    let records : List Record := [⟨"a", "Red fox"⟩, ⟨"b", "..."⟩, ⟨"a", "cat"⟩]
    let index : Index := ⟨Table.listed [("red", 1), ("fox", 2)], Table.listed [("a", 1), ("b", 2)],
      .bitset ⟨[1, 2], ⟨[(1, [true]), (2, [true])], by decide⟩⟩⟩
    let info := Meta.describe index "2024-05-01" "english"
    let fs' := (save {} (.ofRoot "out/idx") index info).1
    (Builder.empty .bitset).addAll analysis records
        = .ok ([some 1, some 2, none], ⟨index, 4, 3, 1⟩) ∧
      save {} (.ofRoot "out/idx") index info = (fs', .ok ()) ∧
      (∃ artifacts, Artifacts.encode index info = .ok artifacts) ∧
      ∃ loaded, load fs'.fetch (.ofRoot "out/idx") = .ok (loaded, info) ∧
        loaded.docs = index.docs ∧ loaded.postings = index.postings ∧
        loaded.terms.entries = index.terms.entries ∧ loaded.terms.mode = .forward ∧
        (∀ lemmatizer query mode,
          loaded.search lemmatizer query mode = index.search lemmatizer query mode) ∧
        (∀ other paths, save other paths loaded info = save other paths index info) ∧
        ∃ later, save fs' (.ofRoot "out/idx") loaded info = (later, .ok ()) ∧
          ∀ path ∈ (Paths.ofRoot "out/idx").all, later.fetch path = fs'.fetch path := by
  intro analysis records index info fs'
  have hbuild : (Builder.empty .bitset).addAll analysis records
      = .ok ([some 1, some 2, none], ⟨index, 4, 3, 1⟩) := by decide +kernel
  have hsave : save {} (.ofRoot "out/idx") index info = (fs', .ok ()) := by decide +kernel
  have hframable : index.Framable :=
    ⟨by decide +kernel, by decide +kernel, fun hpositions => by cases hpositions⟩
  obtain ⟨hencode, hloads⟩ := saved_index_loads_back hbuild "2024-05-01" "english"
  exact ⟨hbuild, hsave, hencode hframable, hloads {} fs' "out/idx" hsave⟩

end Archive

end Retrieval

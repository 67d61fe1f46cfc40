import Mathlib.Tactic.Common
import Retrieval.Archive.Storage
import Retrieval.Proofs.Archive.Meta
import Retrieval.Proofs.Index.Consistent
import Retrieval.Proofs.Posting.Reading
import Retrieval.Proofs.Symbol.Reading

/-!
# Loading what was encoded

The four artifacts of an index are written by four encoders and have to fit together again.
`load_encode` says that they do: an index that is `Loadable` is loaded from its artifacts, wherever
they are read from, with its documents, its postings and its metadata.  The metadata tells the
layout, the table of documents brings back the slots of bit rows, and the sizes that the metadata
states are those of the tables.

What is loaded is `forward` of the index: its terms stand in a table that cannot be asked by id.
Searches do not ask so, and neither does encoding (`search_forward`, `encode_forward`).
-/

namespace Retrieval

open Archive (Artifacts FileError Meta Path Paths load)
open Posting (Representation Store)
open Retrieval.Symbol (Table)

namespace Index

/-! ## The index that is loaded -/

/-- The index with its terms in a forward table. -/
def forward (index : Index) : Index :=
  { index with terms := ⟨.forward, index.terms.entries, []⟩ }

/-- No search asks for the term of an id. -/
theorem search_forward (index : Index) (lemmatizer : Stem.Lemmatizer) (query : String)
    (mode : Search.Mode) :
    index.forward.search lemmatizer query mode = index.search lemmatizer query mode := rfl

/-- The artifacts of an index do not show the mode of its terms. -/
theorem encode_forward (index : Index) (info : Meta) :
    Artifacts.encode index.forward info = Artifacts.encode index info := rfl

/-! ## Indexes that can be loaded -/

/-- The invariant of an index that is read back from its artifacts: its parts fit together, keys are
bound once, and the documents were bound in ascending order of their ids. -/
structure Loadable (index : Index) : Prop where
  consistent : index.Consistent
  listed : index.docs = .listed index.docs.entries
  docKeys : (index.docs.entries.map Prod.fst).Nodup
  termKeys : (index.terms.entries.map Prod.fst).Nodup

namespace Loadable

variable {index : Index}

lemma ids_eq (h : index.Loadable) : index.docs.ids = index.docs.entries.map Prod.snd := by
  have hids := Table.ids_listed index.docs.entries
  rwa [← h.listed] at hids

/-- The table of documents is read back as it was. -/
lemma decode_docs (h : index.Loadable) {octets : List UInt8}
    (hencode : index.docs.encode = .ok octets) :
    Table.decode .reversible octets = .ok index.docs := by
  have hascending : (index.docs.entries.map Prod.snd).Pairwise (· < ·) := by
    rw [← h.ids_eq]
    exact h.consistent.ascending
  rw [Table.decode_encode hencode, Table.insertAll_listed h.docKeys hascending, ← h.listed]
  rfl

/-- The table of terms is read back as a forward table. -/
lemma decode_terms (h : index.Loadable) {octets : List UInt8}
    (hencode : index.terms.encode = .ok octets) :
    Table.decode .forward octets = .ok index.forward.terms := by
  rw [Table.decode_encode hencode, Table.insertAll_forward h.termKeys]
  rfl

/-- The postings are read back as they were. -/
lemma decode_postings (h : index.Loadable) {octets : List UInt8}
    (hencode : index.postings.encode = .ok octets) :
    Store.decode index.postings.representation index.docs.ids octets = .ok index.postings :=
  Store.decode_encode_self h.consistent.canonical hencode fun hbitset doc => by
    rw [h.consistent.registered hbitset]

/-- The parts of the index agree, and nothing is left to be registered. -/
lemma ofParts_eq (h : index.Loadable) :
    ofParts index.forward.terms index.docs index.postings = .ok index.forward := by
  have hregistered : index.postings.representation = .bitset →
      ∀ doc ∈ (IdSet.ofList index.docs.ids).toList, doc ∈ index.postings.registered := by
    intro hbitset doc hdoc
    rw [h.consistent.registered hbitset]
    exact IdSet.mem_ofList.mp hdoc
  have horphans : (index.postings.referenced.diff (IdSet.ofList index.docs.ids)).toList = [] := by
    rw [List.eq_nil_iff_forall_not_mem]
    intro doc hdoc
    obtain ⟨hreferenced, hunknown⟩ := IdSet.mem_diff.mp hdoc
    exact hunknown (IdSet.mem_ofList.mpr (h.consistent.mem_ids_of_referenced hreferenced))
  have hknown := Store.registerEach_of_registered hregistered
  rw [Store.registerEach] at hknown
  simp only [ofParts, h.consistent.reversible, horphans, hknown]
  rfl

end Loadable

/-- Whether metadata tells how to read the artifacts of an index. -/
structure DescribedBy (index : Index) (info : Meta) : Prop where
  docs : info.numDocs.toNat = index.docs.size
  terms : info.numTerms.toNat = index.terms.size
  representation : info.representation = index.postings.representation
  version : info.version = Meta.formatVersion

/-- The metadata of an index describes it, if its tables can be counted. -/
lemma describedBy_describe {index : Index} (hdocs : index.docs.size < UInt32.size)
    (hterms : index.terms.size < UInt32.size) (createdAt language : String) :
    index.DescribedBy (.describe index createdAt language) where
  docs := UInt32.toNat_ofNat_of_lt' hdocs
  terms := UInt32.toNat_ofNat_of_lt' hterms
  representation := rfl
  version := rfl

end Index

namespace Archive

lemma encode_eq_ok {index : Index} {info : Meta} {artifacts : Artifacts} :
    Artifacts.encode index info = .ok artifacts ↔
      index.terms.encode = .ok artifacts.words ∧ index.docs.encode = .ok artifacts.docs ∧
        index.postings.encode = .ok artifacts.postings ∧
        Utf8.encode info.text = artifacts.info := by
  rw [Artifacts.encode, bind_eq_ok]
  constructor
  · rintro ⟨words, hwords, h⟩
    obtain ⟨docs, hdocs, h⟩ := bind_eq_ok.mp h
    obtain ⟨postings, hpostings, h⟩ := bind_eq_ok.mp h
    obtain rfl := Except.ok.inj h
    exact ⟨hwords, hdocs, hpostings, rfl⟩
  · rintro ⟨hwords, hdocs, hpostings, hinfo⟩
    exact ⟨_, hwords, bind_eq_ok.mpr ⟨_, hdocs, bind_eq_ok.mpr ⟨_, hpostings, by rw [hinfo]; rfl⟩⟩⟩

/-- **An index is loaded from its artifacts.** -/
theorem load_encode {index : Index} (h : index.Loadable) {info : Meta}
    (hinfo : index.DescribedBy info) {artifacts : Artifacts}
    (hencode : Artifacts.encode index info = .ok artifacts) {paths : Paths}
    {read : Path → Except FileError (List UInt8)}
    (hread : ∀ placed ∈ artifacts.placed paths, read placed.1 = .ok placed.2) :
    load read paths = .ok (index.forward, info) := by
  obtain ⟨hwords, hdocs, hpostings, hmeta⟩ := encode_eq_ok.mp hencode
  simp only [Artifacts.placed, List.forall_mem_cons] at hread
  obtain ⟨hreadWords, hreadDocs, hreadPostings, hreadInfo, -⟩ := hread
  have hmetaRead : Meta.read artifacts.info = .ok info :=
    hmeta ▸ Meta.read_encode hinfo.version
  have hstore : Store.decode info.representation index.docs.ids artifacts.postings
      = .ok index.postings := hinfo.representation ▸ h.decode_postings hpostings
  have hsizes : ¬ (index.docs.size ≠ info.numDocs.toNat ∨
      index.forward.terms.size ≠ info.numTerms.toNat) := by
    rw [hinfo.docs, hinfo.terms, not_or, not_not, not_not]
    exact ⟨rfl, rfl⟩
  simp only [load, hreadInfo, hreadWords, hreadDocs, hreadPostings, Except.mapError, liftError,
    ok_bind, hmetaRead, h.decode_terms hwords, h.decode_docs hdocs, hstore, if_neg hsizes,
    h.ofParts_eq]
  rfl

end Archive

end Retrieval

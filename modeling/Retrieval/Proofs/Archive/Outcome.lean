import Mathlib.Tactic.Common
import Retrieval.Archive.Storage
import Retrieval.Proofs.Fault
import Retrieval.Proofs.Symbol.Decoding

/-!
# What loading comes to

The four artifacts may hold any octets.  Loading reads them one after the other and checks that they
agree; every reading but one either succeeds or reports an error.  The one is that of the table of
documents, since it is the only table that keeps ids apart: it stops if the file runs out of ids.

`load_eq_ok` says from what an index was loaded, and `load_eq_fault` where loading stops.  What a
file must hold for it is told by `loading_stops_only_out_of_ids`.
-/

namespace Retrieval.Archive

open Posting (Store)
open Retrieval.Symbol (Table)

variable {read : Path → Except FileError (List UInt8)} {paths : Paths}

/-- What a path reads as, if its octets are there and can be decoded. -/
def Reads {ε α : Type} (read : Path → Except FileError (List UInt8)) (path : Path)
    (decode : List UInt8 → Except ε α) (value : α) : Prop :=
  ∃ octets, read path = .ok octets ∧ decode octets = .ok value

/-- The parts that an index was loaded from. -/
structure LoadedFrom (read : Path → Except FileError (List UInt8)) (paths : Paths) (info : Meta)
    (terms docs : Table) (postings : Store) : Prop where
  readsInfo : Reads read paths.info Meta.read info
  readsTerms : Reads read paths.words (Table.decode .forward) terms
  readsDocs : Reads read paths.docs (Table.decode .reversible) docs
  readsPostings : Reads read paths.postings (Store.decode info.representation docs.ids) postings
  numDocs : docs.size = info.numDocs.toNat
  numTerms : terms.size = info.numTerms.toNat

lemma mapError_tableFailure {α : Type} {reading : Except (Failure Frame.ReadError) α}
    {fault : Fault} :
    reading.mapError tableFailure = .error (.fault fault) ↔ reading = .error (.fault fault) := by
  cases reading with
  | ok value => simp [Except.mapError]
  | error failure => cases failure <;> simp [Except.mapError, tableFailure]

/-- **What an index was loaded from**: parts that were read from the artifacts, of the sizes that
the metadata states, and that agree. -/
theorem load_eq_ok {index : Index} {info : Meta} (h : load read paths = .ok (index, info)) :
    ∃ terms docs postings, LoadedFrom read paths info terms docs postings ∧
      Index.ofParts terms docs postings = .ok index := by
  rw [load] at h
  obtain ⟨infoOctets, hinfoRead, h⟩ := bind_eq_ok.mp h
  obtain ⟨found, hinfo, h⟩ := bind_eq_ok.mp h
  obtain ⟨termOctets, htermsRead, h⟩ := bind_eq_ok.mp h
  obtain ⟨terms, hterms, h⟩ := bind_eq_ok.mp h
  obtain ⟨docOctets, hdocsRead, h⟩ := bind_eq_ok.mp h
  obtain ⟨docs, hdocs, h⟩ := bind_eq_ok.mp h
  obtain ⟨postingOctets, hpostingsRead, h⟩ := bind_eq_ok.mp h
  obtain ⟨postings, hpostings, h⟩ := bind_eq_ok.mp h
  simp only [liftError_eq_ok, mapError_eq_ok] at hinfoRead hinfo htermsRead hterms
  simp only [liftError_eq_ok, mapError_eq_ok] at hdocsRead hdocs hpostingsRead hpostings
  split at h
  · cases h
  · rename_i hsizes
    rw [not_or, not_not, not_not] at hsizes
    obtain ⟨joined, hjoined, h⟩ := bind_eq_ok.mp h
    rw [liftError_eq_ok, mapError_eq_ok] at hjoined
    cases h
    refine ⟨terms, docs, postings, ?_, hjoined⟩
    exact ⟨⟨infoOctets, hinfoRead, hinfo⟩, ⟨termOctets, htermsRead, hterms⟩,
      ⟨docOctets, hdocsRead, hdocs⟩, ⟨postingOctets, hpostingsRead, hpostings⟩, hsizes.1,
      hsizes.2⟩

/-- **Where loading stops**: at the table of documents, with the metadata and the table of terms
read before it.  What comes after it reports its errors. -/
theorem load_eq_fault {fault : Fault} :
    load read paths = .error (.fault fault) ↔
      (∃ info, Reads read paths.info Meta.read info) ∧
        (∃ terms, Reads read paths.words (Table.decode .forward) terms) ∧
        ∃ octets, read paths.docs = .ok octets ∧
          Table.decode .reversible octets = .error (.fault fault) := by
  rw [load]
  constructor
  · intro h
    rcases bind_eq_error.mp h with h | ⟨infoOctets, hinfoRead, h⟩
    · exact absurd h liftError_ne_fault
    rcases bind_eq_error.mp h with h | ⟨info, hinfo, h⟩
    · exact absurd h liftError_ne_fault
    rcases bind_eq_error.mp h with h | ⟨termOctets, htermsRead, h⟩
    · exact absurd h liftError_ne_fault
    rcases bind_eq_error.mp h with h | ⟨terms, hterms, h⟩
    · -- a forward table binds whatever id is proposed
      rw [mapError_tableFailure, Table.decode_eq_fault_iff] at h
      cases h.2.1
    rcases bind_eq_error.mp h with h | ⟨docOctets, hdocsRead, h⟩
    · exact absurd h liftError_ne_fault
    simp only [liftError_eq_ok, mapError_eq_ok] at hinfoRead hinfo htermsRead hterms hdocsRead
    rcases bind_eq_error.mp h with h | ⟨docs, -, h⟩
    · exact ⟨⟨info, infoOctets, hinfoRead, hinfo⟩, ⟨terms, termOctets, htermsRead, hterms⟩,
        docOctets, hdocsRead, mapError_tableFailure.mp h⟩
    rcases bind_eq_error.mp h with h | ⟨postingOctets, -, h⟩
    · exact absurd h liftError_ne_fault
    rcases bind_eq_error.mp h with h | ⟨postings, -, h⟩
    · exact absurd h liftError_ne_fault
    split at h
    · cases h
    · rcases bind_eq_error.mp h with h | ⟨index, -, h⟩
      · exact absurd h liftError_ne_fault
      · cases h
  · rintro ⟨⟨info, infoOctets, hinfoRead, hinfo⟩, ⟨terms, termOctets, htermsRead, hterms⟩,
      docOctets, hdocsRead, hdocs⟩
    simp only [hinfoRead, htermsRead, hdocsRead, hinfo, hterms, hdocs, Except.mapError, liftError,
      tableFailure, ok_bind, error_bind]

/-- **Whatever the files hold, only a file of documents that runs out of ids stops.**  Reading a
table ends with a table or a decode error, unless the table is reversible and a new key is proposed
an id that is taken together with all ids above it.  Loading ends with an index or an error, unless
it comes to such a file. -/
theorem loading_stops_only_out_of_ids (mode : Symbol.Mode) (octets : List UInt8)
    (read : Path → Except FileError (List UInt8)) (paths : Paths) (fault : Fault) :
    (Table.decode mode octets = .error (.fault fault) ↔
      fault = .idsExhausted ∧ mode = .reversible ∧ Table.RunsOutOfIds octets) ∧
    (load read paths = .error (.fault fault) ↔
      fault = .idsExhausted ∧ (∃ info, Reads read paths.info Meta.read info) ∧
        (∃ terms, Reads read paths.words (Table.decode .forward) terms) ∧
        ∃ octets, read paths.docs = .ok octets ∧ Table.RunsOutOfIds octets) := by
  refine ⟨Table.decode_eq_fault_iff, ?_⟩
  rw [load_eq_fault]
  constructor
  · rintro ⟨hinfo, hterms, octets, hread, hstop⟩
    obtain ⟨hfault, -, hruns⟩ := Table.decode_eq_fault_iff.mp hstop
    exact ⟨hfault, hinfo, hterms, octets, hread, hruns⟩
  · rintro ⟨hfault, hinfo, hterms, octets, hread, hruns⟩
    exact ⟨hinfo, hterms, octets, hread, Table.decode_eq_fault_iff.mpr ⟨hfault, rfl, hruns⟩⟩

/-- Two documents under the greatest id: reading their table stops, and so does loading an index
whose other artifacts are in order. -/
theorem documents_under_greatest_id_stop :
    let docs : List UInt8 := [2, 0, 0, 0,
      1, 0, 0, 0, 0x61, 0xff, 0xff, 0xff, 0xff,
      1, 0, 0, 0, 0x62, 0xff, 0xff, 0xff, 0xff]
    let info : Meta := ⟨2, 0, .docSet, "", Meta.formatVersion, Meta.defaultLanguage⟩
    let read : Path → Except FileError (List UInt8) := fun path =>
      if path = "meta.json" then .ok (Utf8.encode info.text)
      else if path = "docs.dic" then .ok docs
      else .ok [0, 0, 0, 0]
    Table.decode .reversible docs = .error (.fault .idsExhausted) ∧
      load read (.ofRoot "") = .error (.fault .idsExhausted) := by
  decide +kernel

end Retrieval.Archive

import Mathlib.Tactic.Common
import Retrieval.Error
import Retrieval.Proofs.Posting.History
import Retrieval.Proofs.Posting.Reading

/-!
# The file of a store in every layout

The file of a store can be read in the layout of the store and in the others.  In its own layout the
store is read back as it was.  Bit rows want their registered documents for this, in any order and
as often as one likes; read without them they have slots for the documents of their terms alone.

In another layout the same pairs are read.  Positions cannot be made up, so positional postings that
are read from the file of another layout have none, and they cannot be dropped either: the file of
positional postings is refused in another layout as soon as one pair has positions.

`posting_file_is_read_back` says all of this of the store that any history leaves, if its file can
be counted with 32 bits.
-/

namespace Retrieval.Posting.Store

/-- Whether two stores contain the same pairs. -/
def SameContents (a b : Store) : Prop :=
  ∀ term doc, a.contains term doc = b.contains term doc

/-- Whether no pair of a store has positions. -/
def WithoutPositions (store : Store) : Prop :=
  ∀ term doc, (store.positions? term doc).getD [] = []

/-- What the file of a store is read as. -/
structure ReadBack (store : Store) (octets : List UInt8) : Prop where
  own : store.representation ≠ .bitset → ∀ documents,
    decode store.representation documents octets = .ok store
  slots : store.representation = .bitset → ∀ documents,
    (∀ doc, doc ∈ documents ↔ doc ∈ store.registered) →
      decode .bitset documents octets = .ok store
  /-- Without registered documents the slots are for the documents of the terms. -/
  alone : store.representation = .bitset → ∃ read, decode .bitset [] octets = .ok read ∧
    read.SameContents store ∧ read.registered.Pairwise (· < ·) ∧
      ∀ doc, doc ∈ read.registered ↔ ∃ term, store.contains term doc = true
  presence : store.representation ≠ .positional → ∀ other documents,
    ∃ read, decode other documents octets = .ok read ∧ read.SameContents store ∧
      (other = .positional → ∀ term doc, read.contains term doc = true →
        read.positions? term doc = some [])
  positional : store.representation = .positional → ∀ other ≠ .positional, ∀ documents,
    ((∃ read, decode other documents octets = .ok read) ↔ store.WithoutPositions) ∧
    ((∃ reason, decode other documents octets = .error reason ∧
      (Error.postings reason).kind = .decode) ↔ ¬ store.WithoutPositions)

variable {store : Store} {octets : List UInt8} {representation : Representation}

/-! ## Other layouts -/

/-- The records of a store make the same pairs in any layout. -/
lemma sameContents_ofRecords (h : store.Canonical) (representation : Representation)
    (documents : List UInt32) :
    (ofRecords representation documents store.records).SameContents store := by
  intro term doc
  rw [Bool.eq_iff_iff, contains_iff (canonical_ofRecords _ _ _), contains_iff h,
    mem_docsFor_ofRecords, mem_pairs_records]

/-- A layout without positions admits what a store lists exactly if no pair has positions. -/
lemma admits_iff_withoutPositions (hother : representation ≠ .positional) :
    Admits representation store.listing ↔ store.WithoutPositions := by
  constructor
  · intro hadmits term doc
    cases hpositions : store.positions? term doc with
    | none => rfl
    | some positions =>
      have hpositional : store.representation = .positional := by
        by_contra hpresence
        rw [positions?_eq_none hpresence] at hpositions
        cases hpositions
      have hdoc : doc ∈ store.docsFor term := by
        rw [mem_docsFor_iff_positions? hpositional, hpositions]
        rfl
      obtain ⟨documents, hentry, hfound⟩ :=
        mem_recordsOf.mp (mem_records.mpr ⟨hdoc, congrArg (·.getD []) hpositions⟩)
      exact hadmits hother _ hentry _ hfound
  · intro hnone _ entry hentry found hfound
    rw [← (mem_docsFor_of_listed hentry hfound).2, hnone]

/-- Positional postings that are read from the file of another layout have no positions. -/
lemma positions?_ofRecords_of_presence (h : store.Canonical)
    (hpresence : store.representation ≠ .positional) {documents : List UInt32} {term doc : UInt32}
    (hdoc : doc ∈ store.docsFor term) :
    (ofRecords .positional documents store.records).positions? term doc = some [] := by
  have hrecord : (term, doc, []) ∈ store.records := by
    rw [mem_records, positions?_eq_none hpresence]
    exact ⟨hdoc, rfl⟩
  rw [positions?_ofRecords, if_pos (mem_pairs.mpr ⟨_, hrecord⟩),
    recordedPositions_of_mem (nodup_records h) hrecord]

/-! ## The file of a store -/

/-- Every canonical store is read back from its file. -/
theorem readBack_of_encode (h : store.Canonical) (hencode : store.encode = .ok octets) :
    store.ReadBack octets where
  own hpresence documents :=
    decode_encode_self h hencode fun hbitset => absurd hbitset hpresence
  slots hbitset documents hdocuments := by
    rw [← hbitset]
    exact decode_encode_self h hencode fun _ => hdocuments
  alone hbitset := by
    have hadmits : Admits .bitset store.listing := hbitset ▸ store.admits_listing
    have hcanonical := canonical_ofRecords .bitset [] store.records
    refine ⟨_, decode_encode hencode hadmits [], sameContents_ofRecords h _ _,
      hcanonical.ascending_registered, fun doc => ?_⟩
    rw [mem_registered_ofRecords]
    simp only [contains_iff h, mem_pairs_records, List.not_mem_nil, false_or]
  presence hpresence other documents := by
    have hadmits : Admits other store.listing := fun _ => store.admits_listing hpresence
    refine ⟨_, decode_encode hencode hadmits documents, sameContents_ofRecords h _ _, ?_⟩
    rintro rfl term doc hcontains
    rw [sameContents_ofRecords h, contains_iff h] at hcontains
    exact positions?_ofRecords_of_presence h hpresence hcontains
  positional _ other hother documents := by
    have hread : (∃ read, decode other documents octets = .ok read) ↔ store.WithoutPositions := by
      rw [← admits_iff_withoutPositions hother]
      constructor
      · rintro ⟨read, hread⟩
        by_contra hrefuses
        obtain ⟨hframable, rfl⟩ := encode_eq_ok.mp hencode
        obtain ⟨entry, -, -, hrefused⟩ := decode_fileOf_of_positions hframable hrefuses documents
        rw [hrefused] at hread
        cases hread
      · exact fun hadmits => ⟨_, decode_encode hencode hadmits documents⟩
    refine ⟨hread, ?_⟩
    rw [← hread, ← exists_eq_error_iff]
    exact exists_congr fun _ => and_iff_left rfl

/-- **Whatever its history and its layout, a store is read back from its file**, and every other
layout reads the same pairs from it, unless there are positions that it would have to drop. -/
theorem posting_file_is_read_back {representation : Representation} {changes : List Change}
    (hframable : Framable (ofHistory representation changes).listing) :
    ∃ octets, (ofHistory representation changes).encode = .ok octets ∧
      (ofHistory representation changes).ReadBack octets := by
  have hencode := encode_eq_ok.mpr ⟨hframable, rfl⟩
  exact ⟨_, hencode, readBack_of_encode (canonical_ofHistory representation changes) hencode⟩

/-- Document 3 comes last and moves the slots of 5 and 9, and no term occurs in 7. -/
def lateHistory : List Change :=
  [.record 1 5 [2], .record 1 9 [], .register 7, .record 2 3 [4]]

theorem late_document_is_read_back :
    Framable (ofHistory .bitset lateHistory).listing ∧
      ∃ octets, (ofHistory .bitset lateHistory).encode = .ok octets ∧
        (ofHistory .bitset lateHistory).ReadBack octets :=
  ⟨by decide +kernel, posting_file_is_read_back (by decide +kernel)⟩

end Retrieval.Posting.Store

import Mathlib.Tactic.Common
import Retrieval.Proofs.Posting.Reading

/-!
# What a posting store is read from

A reader goes on only with what it has read, so the octets in front of the place where it stands
are the frames of all that it has met: of positions, of documents, of terms
(`of_decodePositions`, `of_decodeDocuments`, `of_decodeTerms`).  A file that is read to its end is
therefore the file of a listing, and what was read is the store that this listing describes
(`decode_eq_ok`).

The listing may name terms and documents in any order and more than once.  The store has the
invariant of its layout all the same, and the layout that was asked for.
-/

namespace Retrieval.Posting.Store

open Retrieval.Frame (Reader)

/-! ## Octets that were read -/

lemma of_decodePositions {count : Nat} {reader left : Reader} {positions : List UInt32}
    (h : decodePositions count reader = .ok (positions, left)) :
    positions.length = count ∧ reader.rest = positions.flatMap Frame.word ++ left.rest := by
  induction count generalizing reader positions with
  | zero =>
    cases h
    exact ⟨rfl, rfl⟩
  | succ count ih =>
    rw [decodePositions] at h
    obtain ⟨⟨position, behind⟩, hposition, h⟩ := bind_eq_ok.mp h
    obtain ⟨⟨others, last⟩, hothers, h⟩ := bind_eq_ok.mp h
    cases h
    obtain ⟨hlength, hbehind⟩ := ih hothers
    refine ⟨by rw [List.length_cons, hlength], ?_⟩
    rw [Frame.rest_eq_of_readWord hposition, hbehind, List.flatMap_cons, List.append_assoc]

/-- Documents that were read were framed, and the layout admits their positions. -/
lemma of_decodeDocuments {term : UInt32} {count : Nat} {store later : Store}
    {reader left : Reader} (h : decodeDocuments term count store reader = .ok (later, left)) :
    ∃ documents : List (UInt32 × List UInt32), documents.length = count ∧
      (∀ found ∈ documents, found.2.length < UInt32.size) ∧
      (store.representation ≠ .positional → ∀ found ∈ documents, found.2 = []) ∧
      reader.rest = documents.flatMap documentFrames ++ left.rest ∧
      later = store.recordEach (documents.map fun found => (term, found.1, found.2)) := by
  induction count generalizing store reader with
  | zero =>
    cases h
    exact ⟨[], by simp [recordEach]⟩
  | succ count ih =>
    rw [decodeDocuments] at h
    obtain ⟨⟨doc, behindDoc⟩, hdoc, h⟩ := bind_eq_ok.mp h
    obtain ⟨⟨length, behindLength⟩, hlength, h⟩ := bind_eq_ok.mp h
    dsimp only at h
    split at h
    · cases h
    rename_i hallowed
    -- what is left of the test on the layout is that there are no positions to drop
    obtain ⟨⟨positions, behind⟩, hpositions, hrest⟩ := bind_eq_ok.mp h
    rw [framed_eq_ok] at hdoc hlength hpositions
    obtain ⟨hsize, hcounted⟩ := Frame.rest_eq_of_readCount hlength
    obtain ⟨rfl, hwords⟩ := of_decodePositions hpositions
    obtain ⟨others, hcount, hsizes, hadmits, hframes, rfl⟩ := ih hrest
    rw [representation_record] at hadmits
    refine ⟨(doc, positions) :: others, by rw [List.length_cons, hcount],
      List.forall_mem_cons.mpr ⟨hsize, hsizes⟩,
      fun hstore => List.forall_mem_cons.mpr ⟨?_, hadmits hstore⟩, ?_, rfl⟩
    · by_contra hsome
      exact hallowed ⟨List.length_pos_iff.mpr hsome, hstore⟩
    · rw [Frame.rest_eq_of_readWord hdoc, hcounted, hwords, hframes]
      simp only [List.flatMap_cons, documentFrames, counted, List.append_assoc]

/-- Terms that were read were framed, and the layout admits their positions. -/
lemma of_decodeTerms {count : Nat} {store later : Store} {reader left : Reader}
    (h : decodeTerms count store reader = .ok (later, left)) :
    ∃ listing : Listing, listing.length = count ∧
      (∀ entry ∈ listing, entry.2.length < UInt32.size ∧
        ∀ found ∈ entry.2, found.2.length < UInt32.size) ∧
      Admits store.representation listing ∧
      reader.rest = listing.flatMap termFrames ++ left.rest ∧
      later = store.recordEach (recordsOf listing) := by
  induction count generalizing store reader with
  | zero =>
    cases h
    exact ⟨[], by simp [Admits, recordEach, recordsOf]⟩
  | succ count ih =>
    rw [decodeTerms] at h
    obtain ⟨⟨term, behindTerm⟩, hterm, h⟩ := bind_eq_ok.mp h
    obtain ⟨⟨length, behindCount⟩, hlength, h⟩ := bind_eq_ok.mp h
    obtain ⟨⟨next, behind⟩, hnext, h⟩ := bind_eq_ok.mp h
    rw [framed_eq_ok] at hterm hlength
    obtain ⟨hsize, hcounted⟩ := Frame.rest_eq_of_readCount hlength
    obtain ⟨documents, rfl, hsizes, hadmitsFirst, hframes, rfl⟩ := of_decodeDocuments hnext
    obtain ⟨others, hcount, hsizesOthers, hadmits, hframesOthers, rfl⟩ := ih h
    rw [representation_recordEach] at hadmits
    refine ⟨(term, documents) :: others, by rw [List.length_cons, hcount],
      List.forall_mem_cons.mpr ⟨⟨hsize, hsizes⟩, hsizesOthers⟩,
      fun hstore => List.forall_mem_cons.mpr ⟨hadmitsFirst hstore, hadmits hstore⟩, ?_, ?_⟩
    · rw [Frame.rest_eq_of_readWord hterm, hcounted, hframes, hframesOthers]
      simp only [List.flatMap_cons, termFrames, counted, List.append_assoc]
    · rw [recordsOf_cons, recordEach, recordEach, recordEach, List.foldl_append]

/-! ## Files that were read -/

variable {representation : Representation} {documents : List UInt32} {octets : List UInt8}
  {store : Store}

/-- **A store is read exactly from the file of a listing** that can be counted and that the layout
admits, and it is the store that the listing describes. -/
theorem decode_eq_ok :
    decode representation documents octets = .ok store ↔
      ∃ listing, Framable listing ∧ Admits representation listing ∧ fileOf listing = octets ∧
        ofRecords representation documents (recordsOf listing) = store := by
  constructor
  · intro h
    rw [decode] at h
    obtain ⟨⟨count, behindCount⟩, hcount, h⟩ := bind_eq_ok.mp h
    obtain ⟨⟨read, left⟩, hread, h⟩ := bind_eq_ok.mp h
    obtain ⟨⟨⟩, hfinish, h⟩ := bind_eq_ok.mp h
    cases h
    rw [framed_eq_ok] at hcount hfinish
    obtain ⟨hsize, hcounted⟩ := Frame.rest_eq_of_readCount hcount
    obtain ⟨listing, rfl, hsizes, hadmits, hframes, rfl⟩ := of_decodeTerms hread
    change Admits ((empty representation).registerEach documents).representation listing at hadmits
    rw [representation_registerEach, representation_empty] at hadmits
    refine ⟨listing, ⟨hsize, hsizes⟩, hadmits, ?_, rfl⟩
    dsimp only at hcounted
    rw [hcounted, hframes, Frame.rest_eq_of_finish hfinish, List.append_nil]
    rfl
  · rintro ⟨listing, hframable, hadmits, rfl, rfl⟩
    exact decode_fileOf hframable hadmits documents

/-- Whatever octets a store is read from, it has the invariant of its layout. -/
theorem canonical_of_decode (h : decode representation documents octets = .ok store) :
    store.Canonical := by
  obtain ⟨listing, -, -, -, rfl⟩ := decode_eq_ok.mp h
  exact canonical_ofRecords representation documents (recordsOf listing)

/-- A store is read in the layout that was asked for. -/
theorem representation_of_decode (h : decode representation documents octets = .ok store) :
    store.representation = representation := by
  obtain ⟨listing, -, -, -, rfl⟩ := decode_eq_ok.mp h
  exact representation_ofRecords representation documents (recordsOf listing)

end Retrieval.Posting.Store

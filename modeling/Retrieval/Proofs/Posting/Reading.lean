import Mathlib.Tactic.Common
import Retrieval.Proofs.Posting.Listed

/-!
# The file of a posting store is read back

Reading takes a file apart as `fileOf` puts it together: each count is accepted, since its records
follow (`readCount_counted`), and behind the frames of a document or a term the reader stands at the
next one (`decodeDocuments_frames_cons`, `decodeTerms_frames_cons`).  So the file of a listing is
read as the store that the listing describes (`decode_fileOf`), in any layout that admits the
listing.  A layout that does not stops at the first term with positions
(`decode_fileOf_of_positions`).

A canonical store is therefore read back as it was (`decode_encode_self`); in particular the stored
rows get back the lengths they had.  Bit rows need the documents they are given: the file does not
list a document without terms, and only registering it brings its slot back.
-/

namespace Retrieval.Posting

open Retrieval.Frame (Reader)

namespace Store

/-! ## Counts in front of their records -/

lemma length_mul_le_length_flatMap {α : Type} {frames : α → List UInt8} {least : Nat}
    {items : List α} (h : ∀ item ∈ items, least ≤ (frames item).length) :
    items.length * least ≤ (items.flatMap frames).length := by
  induction items with
  | nil => simp
  | cons item rest ih =>
    rw [List.forall_mem_cons] at h
    have hrest := ih h.2
    have hfirst := h.1
    rw [List.flatMap_cons, List.length_append, List.length_cons, Nat.add_one_mul]
    omega

/-- The count of records is accepted in front of them. -/
lemma readCount_counted {α : Type} {frames : α → List UInt8} {items : List α} {least : Nat}
    (hlength : items.length < UInt32.size) (hleast : ∀ item ∈ items, least ≤ (frames item).length)
    (rest : List UInt8) (what : String) (offset : Nat) :
    (⟨counted frames items ++ rest, offset⟩ : Reader).readCount what least
      = .ok (items.length, ⟨items.flatMap frames ++ rest, offset + 4⟩) := by
  unfold counted
  rw [List.append_assoc]
  apply Frame.readCount_word hlength
  have hfollow := length_mul_le_length_flatMap hleast
  rw [List.length_append]
  omega

lemma le_length_documentFrames (found : UInt32 × List UInt32) :
    8 ≤ (documentFrames found).length := by
  simp only [documentFrames, counted, List.length_append, Frame.length_word]
  omega

lemma le_length_termFrames (entry : UInt32 × List (UInt32 × List UInt32)) :
    8 ≤ (termFrames entry).length := by
  simp only [termFrames, counted, List.length_append, Frame.length_word]
  omega

/-! ## Reading a file -/

lemma decodePositions_words (positions : List UInt32) (rest : List UInt8) (offset : Nat) :
    decodePositions positions.length ⟨positions.flatMap Frame.word ++ rest, offset⟩
      = .ok (positions, ⟨rest, offset + (positions.flatMap Frame.word).length⟩) := by
  induction positions generalizing offset with
  | nil => rfl
  | cons position others ih =>
    rw [List.length_cons, decodePositions, List.flatMap_cons, List.append_assoc,
      Frame.readWord_word, ok_bind]
    simp only [ih, ok_bind, List.length_append, Frame.length_word, Nat.add_assoc]
    rfl

lemma framed_ok {α : Type} (value : α) : framed (.ok value) = .ok value := rfl

lemma framed_eq_ok {α : Type} {result : Except Frame.ReadError α} {value : α} :
    framed result = .ok value ↔ result = .ok value :=
  mapError_eq_ok

/-- **One document** is recorded, unless it has positions that the layout does not admit. -/
lemma decodeDocuments_frames_cons {found : UInt32 × List UInt32}
    (hlength : found.2.length < UInt32.size) (term : UInt32) (count : Nat) (store : Store)
    (rest : List UInt8) (offset : Nat) :
    decodeDocuments term (count + 1) store ⟨documentFrames found ++ rest, offset⟩
      = if found.2 ≠ [] ∧ store.representation ≠ .positional then
          .error (.unexpectedPositions term store.representation)
        else decodeDocuments term count (store.record term found.1 found.2)
          ⟨rest, offset + (documentFrames found).length⟩ := by
  have hpositions : ∀ position ∈ found.2, 4 ≤ (Frame.word position).length := by simp
  unfold documentFrames
  rw [decodeDocuments, List.append_assoc, Frame.readWord_word, framed_ok, ok_bind]
  dsimp only
  rw [readCount_counted hlength hpositions, framed_ok, ok_bind]
  dsimp only
  simp only [List.length_pos_iff]
  split
  · rfl
  · rw [decodePositions_words, framed_ok, ok_bind]
    simp only [counted, List.length_append, Frame.length_word, Nat.add_assoc]

/-- Documents without positions that the layout does not admit are recorded. -/
lemma decodeDocuments_frames {documents : List (UInt32 × List UInt32)}
    (hlengths : ∀ found ∈ documents, found.2.length < UInt32.size) (term : UInt32) {store : Store}
    (hadmits : store.representation ≠ .positional → ∀ found ∈ documents, found.2 = [])
    (rest : List UInt8) (offset : Nat) :
    decodeDocuments term documents.length store
        ⟨documents.flatMap documentFrames ++ rest, offset⟩
      = .ok (store.recordEach (documents.map fun found => (term, found.1, found.2)),
          ⟨rest, offset + (documents.flatMap documentFrames).length⟩) := by
  induction documents generalizing store offset with
  | nil => rfl
  | cons found others ih =>
    rw [List.forall_mem_cons] at hlengths
    have hallowed : ¬ (found.2 ≠ [] ∧ store.representation ≠ .positional) :=
      fun h => h.1 (hadmits h.2 found List.mem_cons_self)
    rw [List.length_cons, List.flatMap_cons, List.append_assoc,
      decodeDocuments_frames_cons hlengths.1, if_neg hallowed, ih hlengths.2]
    · simp only [List.map_cons, recordEach, List.foldl_cons, List.length_append, Nat.add_assoc]
    · rw [representation_record]
      exact fun h other hother => hadmits h other (List.mem_cons_of_mem _ hother)

/-- Documents are refused in a layout without positions if one of them has some. -/
lemma decodeDocuments_frames_of_positions {documents : List (UInt32 × List UInt32)}
    (hlengths : ∀ found ∈ documents, found.2.length < UInt32.size) (term : UInt32) {store : Store}
    (hstore : store.representation ≠ .positional) (h : ∃ found ∈ documents, found.2 ≠ [])
    (rest : List UInt8) (offset : Nat) :
    decodeDocuments term documents.length store
        ⟨documents.flatMap documentFrames ++ rest, offset⟩
      = .error (.unexpectedPositions term store.representation) := by
  induction documents generalizing store offset with
  | nil => simp at h
  | cons found others ih =>
    rw [List.forall_mem_cons] at hlengths
    rw [List.length_cons, List.flatMap_cons, List.append_assoc,
      decodeDocuments_frames_cons hlengths.1]
    by_cases hfound : found.2 = []
    · have hothers : ∃ other ∈ others, other.2 ≠ [] := by simpa [hfound] using h
      rw [if_neg (fun h => h.1 hfound), ih hlengths.2 (by simpa using hstore) hothers,
        representation_record]
    · rw [if_pos ⟨hfound, hstore⟩]

/-- **One term**: its documents are read and then the other terms. -/
lemma decodeTerms_frames_cons {entry : UInt32 × List (UInt32 × List UInt32)}
    (hlength : entry.2.length < UInt32.size) (count : Nat) (store : Store) (rest : List UInt8)
    (offset : Nat) :
    decodeTerms (count + 1) store ⟨termFrames entry ++ rest, offset⟩
      = decodeDocuments entry.1 entry.2.length store
          ⟨entry.2.flatMap documentFrames ++ rest, offset + 4 + 4⟩ >>= fun next =>
            decodeTerms count next.1 next.2 := by
  unfold termFrames
  rw [decodeTerms, List.append_assoc, Frame.readWord_word, framed_ok, ok_bind]
  dsimp only
  rw [readCount_counted hlength fun found _ => le_length_documentFrames found, framed_ok, ok_bind]

/-- Terms whose listing the layout admits are recorded. -/
lemma decodeTerms_frames {listing : Listing}
    (hlengths : ∀ entry ∈ listing, entry.2.length < UInt32.size ∧
      ∀ found ∈ entry.2, found.2.length < UInt32.size) {store : Store}
    (hadmits : Admits store.representation listing) (rest : List UInt8) (offset : Nat) :
    decodeTerms listing.length store ⟨listing.flatMap termFrames ++ rest, offset⟩
      = .ok (store.recordEach (recordsOf listing),
          ⟨rest, offset + (listing.flatMap termFrames).length⟩) := by
  induction listing generalizing store offset with
  | nil => rfl
  | cons entry others ih =>
    rw [List.forall_mem_cons] at hlengths
    rw [List.length_cons, List.flatMap_cons, List.append_assoc,
      decodeTerms_frames_cons hlengths.1.1, decodeDocuments_frames hlengths.1.2 entry.1
        (fun h => hadmits h entry List.mem_cons_self), ok_bind]
    dsimp only
    rw [ih hlengths.2]
    · simp only [recordsOf, List.flatMap_cons, recordEach, List.foldl_append, List.length_append,
        termFrames, counted, Frame.length_word, Nat.add_assoc]
    · rw [representation_recordEach]
      exact fun h other hother => hadmits h other (List.mem_cons_of_mem _ hother)

/-- Terms are refused in a layout without positions if one of them has some, and the first such term
is named. -/
lemma decodeTerms_frames_of_positions {listing : Listing}
    (hlengths : ∀ entry ∈ listing, entry.2.length < UInt32.size ∧
      ∀ found ∈ entry.2, found.2.length < UInt32.size) {store : Store}
    (hrefuses : ¬ Admits store.representation listing) (rest : List UInt8) (offset : Nat) :
    ∃ entry ∈ listing, (∃ found ∈ entry.2, found.2 ≠ []) ∧
      decodeTerms listing.length store ⟨listing.flatMap termFrames ++ rest, offset⟩
        = .error (.unexpectedPositions entry.1 store.representation) := by
  unfold Admits at hrefuses
  push Not at hrefuses
  obtain ⟨hstore, hpositions⟩ := hrefuses
  induction listing generalizing store offset with
  | nil => simp at hpositions
  | cons entry others ih =>
    rw [List.forall_mem_cons] at hlengths
    rw [List.length_cons, List.flatMap_cons, List.append_assoc,
      decodeTerms_frames_cons hlengths.1.1]
    by_cases hentry : ∃ found ∈ entry.2, found.2 ≠ []
    · refine ⟨entry, List.mem_cons_self, hentry, ?_⟩
      rw [decodeDocuments_frames_of_positions hlengths.1.2 entry.1 hstore hentry]
      rfl
    · rw [List.exists_mem_cons_iff] at hpositions
      have hothers := hpositions.resolve_left hentry
      push Not at hentry
      rw [decodeDocuments_frames hlengths.1.2 entry.1 fun _ => hentry, ok_bind]
      dsimp only
      have hkept := store.representation_recordEach
        (entry.2.map fun found => (entry.1, found.1, found.2))
      rw [← hkept] at hstore ⊢
      obtain ⟨other, hother, hfound, hread⟩ := ih hlengths.2
        (offset + 4 + 4 + (entry.2.flatMap documentFrames).length) hstore hothers
      exact ⟨other, List.mem_cons_of_mem _ hother, hfound, hread⟩

/-! ## Files -/

lemma decode_counted {listing : Listing} (hlength : listing.length < UInt32.size)
    (representation : Representation) (documents : List UInt32) :
    decode representation documents (fileOf listing)
      = decodeTerms listing.length ((empty representation).registerEach documents)
          ⟨listing.flatMap termFrames ++ [], 0 + 4⟩ >>= fun read =>
            framed read.2.finish >>= fun _ => .ok read.1 := by
  have hfile : fileOf listing = counted termFrames listing ++ [] := (List.append_nil _).symm
  rw [decode, hfile, readCount_counted hlength fun entry _ => le_length_termFrames entry]
  rfl

/-- **A file is read** by registering the documents that are given and recording what it lists, in
any layout that admits the listing. -/
theorem decode_fileOf {listing : Listing} (h : Framable listing) {representation : Representation}
    (hadmits : Admits representation listing) (documents : List UInt32) :
    decode representation documents (fileOf listing)
      = .ok (ofRecords representation documents (recordsOf listing)) := by
  rw [decode_counted h.1, decodeTerms_frames h.2]
  · rfl
  · simpa using hadmits

/-- **A file with positions is refused** in a layout that keeps none, and the first term that has
some is named. -/
theorem decode_fileOf_of_positions {listing : Listing} (h : Framable listing)
    {representation : Representation} (hrefuses : ¬ Admits representation listing)
    (documents : List UInt32) :
    ∃ entry ∈ listing, (∃ found ∈ entry.2, found.2 ≠ []) ∧
      decode representation documents (fileOf listing)
        = .error (.unexpectedPositions entry.1 representation) := by
  have hstart : ((empty representation).registerEach documents).representation
      = representation := by simp
  rw [← hstart] at hrefuses
  obtain ⟨entry, hentry, hfound, hread⟩ := decodeTerms_frames_of_positions h.2 hrefuses [] (0 + 4)
  refine ⟨entry, hentry, hfound, ?_⟩
  rw [decode_counted h.1, hread, hstart]
  rfl

/-! ## Files of stores -/

/-- **A store is read back** as what it lists describes, in any layout that admits it. -/
theorem decode_encode {store : Store} {octets : List UInt8} (h : store.encode = .ok octets)
    {representation : Representation} (hadmits : Admits representation store.listing)
    (documents : List UInt32) :
    decode representation documents octets
      = .ok (ofRecords representation documents store.records) := by
  obtain ⟨hframable, rfl⟩ := encode_eq_ok.mp h
  exact decode_fileOf hframable hadmits documents

/-- **A canonical store is read back as it was**, if bit rows are given the documents that they
have for slots, in whatever order. -/
theorem decode_encode_self {store : Store} (h : store.Canonical) {octets : List UInt8}
    (hencode : store.encode = .ok octets) {documents : List UInt32}
    (hregistered : store.representation = .bitset →
      ∀ doc, doc ∈ documents ↔ doc ∈ store.registered) :
    decode store.representation documents octets = .ok store := by
  rw [decode_encode hencode store.admits_listing, ofRecords_records h hregistered]

end Store

end Retrieval.Posting

import Mathlib.Tactic.Common
import Retrieval.Distinct
import Retrieval.Proofs.Posting.Listed

/-!
# Histories of posting stores

A store comes about by changes: documents are registered and terms are recorded in documents, in any
order.  What a history leaves does not depend on when a document is registered.  All documents may
as well be registered ahead and then all records made (`applyAll_eq`), since recording registers a
document only if need be, and a document that comes late moves slots but no set of documents.

So a store of any layout contains the pairs that were recorded, and positional postings keep the
positions of all records of a pair.  The layouts cannot be told apart by what they contain, by how
many terms they count, or, without positions, by the file they are written as
(`layouts_answer_alike`).
-/

namespace Retrieval.Posting

/-- A change of a posting store. -/
inductive Change where
  | register (doc : UInt32)
  | record (term doc : UInt32) (positions : List UInt32)
  deriving DecidableEq

namespace Change

/-- The document that a change makes known. -/
def doc : Change → UInt32
  | register doc => doc
  | record _ doc _ => doc

/-- What a change records, unless it only registers. -/
def record? : Change → Option Store.Record
  | register _ => none
  | record term doc positions => some (term, doc, positions)

end Change

/-- The records of a history. -/
def recordsIn (changes : List Change) : List Store.Record :=
  changes.filterMap Change.record?

/-- Whether some change records the term in the document. -/
def Recorded (changes : List Change) (term doc : UInt32) : Prop :=
  ∃ positions, Change.record term doc positions ∈ changes

lemma recorded_iff_pairs {changes : List Change} {term doc : UInt32} :
    Recorded changes term doc ↔ (term, doc) ∈ Store.pairs (recordsIn changes) := by
  rw [Store.mem_pairs]
  refine exists_congr fun positions => ?_
  rw [recordsIn, List.mem_filterMap]
  constructor
  · exact fun hchange => ⟨_, hchange, rfl⟩
  · rintro ⟨change, hchange, hrecord⟩
    cases change with
    | register doc => cases hrecord
    | record term doc positions =>
      cases hrecord
      exact hchange

instance (changes : List Change) (term doc : UInt32) : Decidable (Recorded changes term doc) :=
  decidable_of_iff _ recorded_iff_pairs.symm

namespace Store

/-- Makes a change. -/
def apply (store : Store) : Change → Store
  | .register doc => store.register doc
  | .record term doc positions => store.record term doc positions

/-- Makes changes one after the other. -/
def applyAll (store : Store) (changes : List Change) : Store :=
  changes.foldl apply store

/-! ## Registering ahead -/

/-- **A document may be registered before it is recorded in**, and so may others that are registered
later. -/
lemma registerEach_record {store : Store} (h : store.Canonical) (term doc : UInt32)
    (positions : List UInt32) (documents : List UInt32) :
    (store.record term doc positions).registerEach documents
      = (store.registerEach (doc :: documents)).record term doc positions := by
  have hrecord := h.record term doc positions
  have hregister := canonical_registerEach h (doc :: documents)
  have hleft := canonical_registerEach hrecord documents
  have hright := hregister.record term doc positions
  -- the rows themselves are shifted at other times, so the stores are compared by what they mean
  refine hleft.ext hright ?_ ?_ ?_ ?_
  · rw [representation_registerEach, representation_record, representation_record,
      representation_registerEach]
  · by_cases hbitset : store.representation = .bitset
    · refine eq_of_ascending hleft.ascending_registered hright.ascending_registered fun other => ?_
      rw [mem_registered_registerEach hrecord (by simpa using hbitset), registered_record h,
        registered_register h, if_pos hbitset, IdSet.mem_insertSorted, registered_record hregister,
        registered_register hregister, if_pos (by simpa using hbitset), IdSet.mem_insertSorted,
        mem_registered_registerEach h hbitset, List.mem_cons]
      tauto
    · rw [registered_eq_nil (by simpa using hbitset), registered_eq_nil (by simpa using hbitset)]
  · intro other
    refine IdSet.ext_mem fun found => ?_
    rw [docsFor_registerEach hrecord, mem_docsFor_record h, mem_docsFor_record hregister,
      docsFor_registerEach h]
  · intro other found
    by_cases hpositional : store.representation = .positional
    · rw [positions?_registerEach, positions?_record hpositional,
        positions?_record (by simpa using hpositional), positions?_registerEach,
        positions?_registerEach]
    · rw [positions?_eq_none (by simpa using hpositional),
        positions?_eq_none (by simpa using hpositional)]

/-- **Whatever the order of a history**, it leaves what registering all its documents and then
making its records leaves. -/
theorem applyAll_eq {store : Store} (h : store.Canonical) (changes : List Change) :
    store.applyAll changes
      = (store.registerEach (changes.map Change.doc)).recordEach (recordsIn changes) := by
  induction changes generalizing store with
  | nil => rfl
  | cons change rest ih =>
    cases change with
    | register doc => exact ih (h.register doc)
    | record term doc positions =>
      -- the registrations that follow come before the record, and so does its own
      refine (ih (h.record term doc positions)).trans ?_
      rw [registerEach_record h]
      rfl

/-- The store that a history leaves. -/
def ofHistory (representation : Representation) (changes : List Change) : Store :=
  (empty representation).applyAll changes

lemma ofHistory_eq (representation : Representation) (changes : List Change) :
    ofHistory representation changes
      = ofRecords representation (changes.map Change.doc) (recordsIn changes) :=
  applyAll_eq (canonical_empty representation) changes

section

variable {representation : Representation} {changes : List Change} {term doc : UInt32}

lemma canonical_ofHistory (representation : Representation) (changes : List Change) :
    (ofHistory representation changes).Canonical := by
  rw [ofHistory_eq]
  exact canonical_ofRecords _ _ _

@[simp]
lemma representation_ofHistory (representation : Representation) (changes : List Change) :
    (ofHistory representation changes).representation = representation := by
  rw [ofHistory_eq, representation_ofRecords]

lemma mem_docsFor_ofHistory :
    doc ∈ (ofHistory representation changes).docsFor term ↔ Recorded changes term doc := by
  rw [ofHistory_eq, mem_docsFor_ofRecords, recorded_iff_pairs]

lemma positions?_ofHistory :
    (ofHistory .positional changes).positions? term doc
      = if Recorded changes term doc then some (recordedPositions (recordsIn changes) term doc)
        else none := by
  rw [ofHistory_eq, positions?_ofRecords]
  simp only [recorded_iff_pairs]

/-- A term is counted exactly if it was recorded. -/
lemma mem_terms_ofHistory :
    term ∈ (ofHistory representation changes).terms ↔
      term ∈ (recordsIn changes).map fun record => record.1 := by
  rw [mem_terms (canonical_ofHistory representation changes)]
  simp [mem_docsFor_ofHistory, recorded_iff_pairs, mem_pairs]

end

/-! ## The layouts side by side -/

/-- **The layouts answer alike after every history.**  Each contains exactly the pairs that were
recorded, lists the documents of a term in ascending order and counts the recorded terms.
Positional postings keep the positions of a pair in the order of its records.  All rows of bits have
one width, a row is read as the documents of its term, and it makes no difference to a file whether
rows or sets are written. -/
theorem layouts_answer_alike (changes : List Change) :
    (∀ representation term doc,
      (ofHistory representation changes).contains term doc = true ↔ Recorded changes term doc) ∧
    (∀ representation term,
      ((ofHistory representation changes).docsFor term).toList.Pairwise (· < ·) ∧
      ∀ doc, doc ∈ ((ofHistory representation changes).docsFor term).toList ↔
        Recorded changes term doc) ∧
    (∀ representation, (ofHistory representation changes).termCount
      = (distinct ((recordsIn changes).map fun record => record.1)).length) ∧
    (∀ term doc, (ofHistory .positional changes).positions? term doc
      = if Recorded changes term doc then some (recordedPositions (recordsIn changes) term doc)
        else none) ∧
    (∃ rows, ofHistory .bitset changes = .bitset rows ∧
      rows.emptyRow.length = rows.documents.length ∧
      rows.fullRow.length = rows.documents.length ∧
      ∀ term, (rows.row term).length = rows.documents.length ∧
        rows.decode (rows.row term) = (rows.docsFor term).toList.reverse) ∧
    (ofHistory .bitset changes).encode = (ofHistory .docSet changes).encode := by
  have hcanonical := fun representation => canonical_ofHistory representation changes
  refine ⟨fun representation term doc => ?_, fun representation term => ⟨?_, fun doc => ?_⟩,
    fun representation => ?_, fun term doc => positions?_ofHistory, ?_, ?_⟩
  · rw [contains_iff (hcanonical representation), mem_docsFor_ofHistory]
  · exact ((ofHistory representation changes).docsFor term).ascending
  · exact mem_docsFor_ofHistory
  · exact IdSet.card_eq_length (nodup_distinct _) fun term =>
      mem_terms_ofHistory.trans mem_distinct.symm
  · obtain ⟨rows, hrows⟩ := exists_bitset (representation_ofHistory .bitset changes)
    have hcanonicalRows : rows.Canonical := by
      have h := hcanonical .bitset
      rwa [hrows] at h
    exact ⟨rows, hrows, BitRow.length_zeros _, BitRow.length_ones _, fun term =>
      ⟨Bitset.length_row hcanonicalRows term, Bitset.decode_row hcanonicalRows term⟩⟩
  · have hlisting : (ofHistory .bitset changes).listing = (ofHistory .docSet changes).listing := by
      refine listing_eq_of_docsFor (hcanonical _) (hcanonical _) (by simp) (by simp) ?_
      exact fun term doc => mem_docsFor_ofHistory.trans mem_docsFor_ofHistory.symm
    unfold Store.encode
    rw [hlisting]

end Store

end Retrieval.Posting

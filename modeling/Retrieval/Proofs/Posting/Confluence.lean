import Mathlib.Tactic.Common
import Retrieval.Proofs.Posting.Decoding
import Retrieval.Proofs.Posting.History

/-!
# Bit rows do not remember their history

Bit rows keep their rows by slot, and a document that comes out of order moves the slots behind it.
Even so the rows that a history leaves depend on two sets alone: the documents that were registered
or recorded in, and the pairs that were recorded (`ofHistory_congr`).  They are canonical after
every history, and a canonical store is determined by what it means.

In particular it makes no difference whether known documents are registered before a file is read or
after it (`decode_eq_ok_iff_registerEach`).
-/

namespace Retrieval.Posting

namespace Bitset

/-- Makes a change.  Bit rows keep no positions. -/
def apply (store : Bitset) : Change → Bitset
  | .register doc => store.register doc
  | .record term doc _ => store.record term doc

/-- The bit rows that a history leaves. -/
def ofHistory (changes : List Change) : Bitset :=
  changes.foldl apply {}

lemma bitset_applyAll (store : Bitset) (changes : List Change) :
    (Store.bitset store).applyAll changes = .bitset (changes.foldl apply store) := by
  induction changes generalizing store with
  | nil => rfl
  | cons change rest ih => cases change <;> exact ih _

/-- These are the rows of the store that the history leaves. -/
lemma bitset_ofHistory (changes : List Change) :
    Store.ofHistory .bitset changes = .bitset (ofHistory changes) :=
  bitset_applyAll {} changes

/-! ## What a history leaves -/

variable {changes changes' : List Change} {term doc : UInt32}

lemma canonical_ofHistory (changes : List Change) : (ofHistory changes).Canonical := by
  have hcanonical := Store.canonical_ofHistory .bitset changes
  rwa [bitset_ofHistory] at hcanonical

lemma mem_documents_ofHistory :
    doc ∈ (ofHistory changes).documents ↔ doc ∈ changes.map Change.doc := by
  have hregistered : (ofHistory changes).documents
      = (Store.ofHistory .bitset changes).registered := by
    rw [bitset_ofHistory]
    rfl
  rw [hregistered, Store.ofHistory_eq, Store.mem_registered_ofRecords, or_iff_left_iff_imp]
  rintro ⟨term, hpair⟩
  obtain ⟨positions, hchange⟩ := recorded_iff_pairs.mpr hpair
  exact List.mem_map_of_mem hchange

lemma mem_docsFor_ofHistory :
    doc ∈ (ofHistory changes).docsFor term ↔ Recorded changes term doc := by
  have hdocsFor : doc ∈ (Store.ofHistory .bitset changes).docsFor term ↔
      Recorded changes term doc := Store.mem_docsFor_ofHistory
  rwa [bitset_ofHistory] at hdocsFor

/-- **Confluence.**  Histories with the same documents and the same recorded pairs leave the same
rows. -/
theorem ofHistory_congr
    (hdocs : ∀ doc, doc ∈ changes'.map Change.doc ↔ doc ∈ changes.map Change.doc)
    (hpairs : ∀ term doc, Recorded changes' term doc ↔ Recorded changes term doc) :
    ofHistory changes' = ofHistory changes := by
  have h := canonical_ofHistory changes
  have h' := canonical_ofHistory changes'
  refine h'.ext h (eq_of_ascending h'.ascending h.ascending fun doc => ?_) fun term doc => ?_
  · rw [mem_documents_ofHistory, mem_documents_ofHistory, hdocs]
  · rw [mem_docsFor_ofHistory, mem_docsFor_ofHistory, hpairs]

/-! ## The slot of a document -/

/-- A document gets the slot behind the documents below it. -/
lemma getElem?_documents_register {store : Bitset} (h : store.Canonical) (doc : UInt32) :
    (store.register doc).documents[store.slot doc]? = some doc := by
  by_cases hdoc : doc ∈ store.documents
  · rw [register, if_pos hdoc]
    exact h.getElem?_slot hdoc
  · have hslot : store.slot doc ≤ store.documents.length := (List.takeWhile_sublist _).length_le
    rw [register, if_neg hdoc]
    simp [hslot]

end Bitset

/-! ## Reading -/

namespace Store

/-- Bit rows may be told of documents before or after the records are made. -/
lemma ofRecords_eq_registerEach (documents : List UInt32) (records : List Record) :
    ofRecords .bitset documents records
      = (ofRecords .bitset [] records).registerEach documents := by
  have hrecords := canonical_ofRecords .bitset [] records
  have hbefore := canonical_ofRecords .bitset documents records
  have hafter := canonical_registerEach hrecords documents
  refine hbefore.ext hafter (by simp) ?_ (fun term => IdSet.ext_mem fun doc => ?_)
    fun term doc => ?_
  · refine eq_of_ascending hbefore.ascending_registered hafter.ascending_registered fun doc => ?_
    rw [mem_registered_registerEach hrecords (by simp), mem_registered_ofRecords,
      mem_registered_ofRecords]
    simp
  · rw [docsFor_registerEach hrecords, mem_docsFor_ofRecords, mem_docsFor_ofRecords]
  · rw [positions?_eq_none (by simp), positions?_eq_none (by simp)]

/-- **Known documents may be registered after a file is read** as well as before. -/
theorem decode_eq_ok_iff_registerEach {documents : List UInt32} {octets : List UInt8}
    {store : Store} :
    decode .bitset documents octets = .ok store ↔
      ∃ read, decode .bitset [] octets = .ok read ∧ read.registerEach documents = store := by
  simp only [decode_eq_ok]
  constructor
  · rintro ⟨listing, hframable, hadmits, hfile, rfl⟩
    exact ⟨_, ⟨listing, hframable, hadmits, hfile, rfl⟩, (ofRecords_eq_registerEach _ _).symm⟩
  · rintro ⟨_, ⟨listing, hframable, hadmits, hfile, rfl⟩, rfl⟩
    exact ⟨listing, hframable, hadmits, hfile, ofRecords_eq_registerEach _ _⟩

end Store

/-! ## All of it -/

namespace Bitset

/-- **Bit rows are canonical and do not remember their history.**  After every history the documents
ascend, and are those that were registered or recorded in; every stored row ends with a set bit and
is no longer than the list of documents, so it can be filled up to a row of that length.  A document
that is registered next gets, or has, the slot behind the documents below it.  Every history with
the same documents and the same recorded pairs leaves the same rows, and documents that are
registered before a file is read may be registered after it instead. -/
theorem history_leaves_canonical_rows (changes : List Change) :
    (ofHistory changes).documents.Pairwise (· < ·) ∧
    (∀ doc, doc ∈ (ofHistory changes).documents ↔ doc ∈ changes.map Change.doc) ∧
    (∀ term row, (ofHistory changes).rows.get? term = some row → row ≠ [] ∧
      row.length ≤ (ofHistory changes).documents.length ∧ row.getLast? = some true) ∧
    (∀ term, ((ofHistory changes).row term).length = (ofHistory changes).documents.length) ∧
    (∀ doc, ((ofHistory changes).register doc).slot doc = (ofHistory changes).slot doc ∧
      ((ofHistory changes).register doc).documents[(ofHistory changes).slot doc]? = some doc) ∧
    (∀ changes', (∀ doc, doc ∈ changes'.map Change.doc ↔ doc ∈ changes.map Change.doc) →
      (∀ term doc, Recorded changes' term doc ↔ Recorded changes term doc) →
        ofHistory changes' = ofHistory changes) ∧
    ∀ documents octets store, Store.decode .bitset documents octets = .ok store ↔
      ∃ read, Store.decode .bitset [] octets = .ok read ∧ read.registerEach documents = store := by
  have h := canonical_ofHistory changes
  refine ⟨h.ascending, fun doc => mem_documents_ofHistory, fun term row hrow => ?_, length_row h,
    fun doc => ?_, fun changes' => ofHistory_congr, fun documents octets store =>
      Store.decode_eq_ok_iff_registerEach⟩
  · exact ⟨(h.trimmed hrow).ne_nil, h.bounded hrow, h.trimmed hrow⟩
  · have hslot := getElem?_documents_register h doc
    exact ⟨(h.register doc).slot_eq hslot, hslot⟩

/-- Document 3 comes before those that it stood behind, 5 is registered in vain, and a pair is
recorded twice. -/
theorem reordered_history_leaves_same_rows :
    let changes : List Change :=
      [.record 1 5 [2], .record 1 9 [], .register 7, .record 2 3 [4]]
    let changes' : List Change :=
      [.record 2 3 [], .register 5, .record 1 9 [], .record 1 5 [], .record 2 3 [], .register 7]
    (∀ doc, doc ∈ changes'.map Change.doc ↔ doc ∈ changes.map Change.doc) ∧
      (∀ term doc, Recorded changes' term doc ↔ Recorded changes term doc) ∧
      ofHistory changes' = ofHistory changes := by
  intro changes changes'
  have hdocs : ∀ doc, doc ∈ changes'.map Change.doc ↔ doc ∈ changes.map Change.doc := by
    intro doc
    rw [show changes'.map Change.doc = [3, 5, 9, 5, 3, 7] from rfl,
      show changes.map Change.doc = [5, 9, 7, 3] from rfl]
    simp only [List.mem_cons, List.not_mem_nil, or_false]
    tauto
  have hpairs : ∀ term doc, Recorded changes' term doc ↔ Recorded changes term doc := by
    intro term doc
    rw [recorded_iff_pairs, recorded_iff_pairs,
      show Store.pairs (recordsIn changes') = [(2, 3), (1, 9), (1, 5), (2, 3)] from rfl,
      show Store.pairs (recordsIn changes) = [(1, 5), (1, 9), (2, 3)] from rfl]
    simp only [List.mem_cons, List.not_mem_nil, or_false]
    tauto
  obtain ⟨-, -, -, -, -, hconfluent, -⟩ := history_leaves_canonical_rows changes
  exact ⟨hdocs, hpairs, hconfluent changes' hdocs hpairs⟩

end Bitset

end Retrieval.Posting

import Retrieval.Posting.Bitset
import Retrieval.Proofs.Ids.Extensionality
import Retrieval.Proofs.Posting.BitRow

/-!
# Postings as bit rows are sets of documents

The bit-row layout keeps its rows by slot, and slots move whenever a document is registered before
others.  What a store *means* does not move: it is the list of registered documents together with
the set `docsFor term` of each term.  This module shows that registering leaves every such set
alone (`docsFor_register`), that recording adds exactly one document to one of them
(`mem_docsFor_record`), and that a store is determined by what it means (`Canonical.ext`).  The row
of a term, as it is read, selects these documents again (`decode_row`).

`Canonical` is the invariant behind all of this: the documents ascend, and every stored row is
trimmed and no longer than the list of documents.  The empty store is canonical, and registering
and recording keep a store canonical.
-/

namespace Retrieval

namespace IdSet

lemma insertSorted_of_mem {id : UInt32} {ids : List UInt32} (h : ids.Pairwise (· < ·))
    (hmem : id ∈ ids) : insertSorted id ids = ids :=
  eq_of_ascending (insertSorted_ascending h) h fun other => by
    rw [mem_insertSorted]
    constructor
    · rintro (rfl | hother)
      · exact hmem
      · exact hother
    · exact Or.inr

/-- A new id goes behind the ids below it. -/
lemma insertSorted_of_not_mem {id : UInt32} {ids : List UInt32} (h : ids.Pairwise (· < ·))
    (hmem : id ∉ ids) :
    insertSorted id ids
      = ids.take (ids.takeWhile (· < id)).length
        ++ id :: ids.drop (ids.takeWhile (· < id)).length := by
  induction ids with
  | nil => rfl
  | cons first rest ih =>
    obtain ⟨hfirst, hrest⟩ := List.pairwise_cons.mp h
    rw [List.mem_cons, not_or] at hmem
    rw [insertSorted]
    by_cases hlt : id < first
    · have hnot : ¬ first < id := fun hc => UInt32.lt_irrefl _ (UInt32.lt_trans hlt hc)
      rw [if_pos hlt, List.takeWhile_cons_of_neg (by simpa using hnot)]
      rfl
    · have hbelow : first < id := UInt32.lt_of_le_of_ne (UInt32.not_lt.mp hlt) (Ne.symm hmem.1)
      rw [if_neg hlt, if_neg hmem.1, ih hrest hmem.2,
        List.takeWhile_cons_of_pos (by simpa using hbelow)]
      rfl

/-- In an ascending list an id stands behind exactly the ids below it. -/
lemma length_takeWhile_lt {ids : List UInt32} (h : ids.Pairwise (· < ·)) {slot : Nat} {id : UInt32}
    (hid : ids[slot]? = some id) : (ids.takeWhile (· < id)).length = slot := by
  induction ids generalizing slot with
  | nil => simp at hid
  | cons first rest ih =>
    obtain ⟨hfirst, hrest⟩ := List.pairwise_cons.mp h
    cases slot with
    | zero =>
      have hid' : first = id := by simpa using hid
      rw [hid', List.takeWhile_cons_of_neg (by simp)]
      rfl
    | succ slot =>
      have hid' : rest[slot]? = some id := hid
      have hbelow : first < id := hfirst id (List.mem_of_getElem? hid')
      rw [List.takeWhile_cons_of_pos (by simpa using hbelow), List.length_cons, ih hrest hid']

end IdSet

namespace Posting.Bitset

/-- The stored bits of a term; none if the term was never recorded. -/
def bits (store : Bitset) (term : UInt32) : BitRow :=
  (store.rows.get? term).getD []

/-- The invariant of postings as bit rows. -/
structure Canonical (store : Bitset) : Prop where
  ascending : store.documents.Pairwise (· < ·)
  trimmed : ∀ {term row}, store.rows.get? term = some row → row.Trimmed
  bounded : ∀ {term row}, store.rows.get? term = some row → row.length ≤ store.documents.length

lemma canonical_empty : Canonical {} where
  ascending := List.Pairwise.nil
  trimmed h := by simp at h
  bounded h := by simp at h

/-! ## What a store means -/

lemma mem_docsFor {store : Bitset} {term doc : UInt32} :
    doc ∈ store.docsFor term
      ↔ ∃ slot, (store.bits term).testBit slot = true ∧ store.documents[slot]? = some doc := by
  rw [docsFor, IdSet.mem_ofList, BitRow.mem_select]
  rfl

namespace Canonical

variable {store : Bitset}

lemma length_bits_le (h : store.Canonical) (term : UInt32) :
    (store.bits term).length ≤ store.documents.length := by
  rw [bits]
  cases hrow : store.rows.get? term with
  | none => simp
  | some row => exact h.bounded hrow

lemma bits_eq_nil_or_trimmed (h : store.Canonical) (term : UInt32) :
    store.bits term = [] ∨ (store.bits term).Trimmed := by
  rw [bits]
  cases hrow : store.rows.get? term with
  | none => exact Or.inl rfl
  | some row => exact Or.inr (h.trimmed hrow)

lemma slot_eq (h : store.Canonical) {slot : Nat} {doc : UInt32}
    (hdoc : store.documents[slot]? = some doc) : store.slot doc = slot :=
  IdSet.length_takeWhile_lt h.ascending hdoc

lemma getElem?_slot (h : store.Canonical) {doc : UInt32} (hdoc : doc ∈ store.documents) :
    store.documents[store.slot doc]? = some doc := by
  obtain ⟨slot, hslot⟩ := List.mem_iff_getElem?.mp hdoc
  rw [h.slot_eq hslot, hslot]

/-- The bit at the slot of a document tells whether the document is one of the term's. -/
lemma testBit_bits (h : store.Canonical) {slot : Nat} {doc term : UInt32}
    (hdoc : store.documents[slot]? = some doc) :
    (store.bits term).testBit slot = true ↔ doc ∈ store.docsFor term := by
  rw [mem_docsFor]
  constructor
  · exact fun hbit => ⟨slot, hbit, hdoc⟩
  · rintro ⟨other, hbit, hother⟩
    rwa [← h.slot_eq hdoc, h.slot_eq hother]

/-- Membership is asked of a store by `contains`. -/
lemma contains_iff (h : store.Canonical) {term doc : UInt32} :
    store.contains term doc = true ↔ doc ∈ store.docsFor term := by
  rw [contains, Bool.and_eq_true, decide_eq_true_iff]
  constructor
  · rintro ⟨hdoc, hbit⟩
    exact (h.testBit_bits (h.getElem?_slot hdoc)).mp hbit
  · intro hdoc
    obtain ⟨slot, hbit, hslot⟩ := mem_docsFor.mp hdoc
    refine ⟨List.mem_of_getElem? hslot, ?_⟩
    rw [h.slot_eq hslot]
    exact hbit

/-- A stored row has a set bit, so a term with a row has a document. -/
lemma docsFor_nonempty (h : store.Canonical) {term : UInt32} {row : BitRow}
    (hrow : store.rows.get? term = some row) : ∃ doc, doc ∈ store.docsFor term := by
  have hbit := (h.trimmed hrow).testBit_last
  have hslot : row.length - 1 < store.documents.length :=
    Nat.lt_of_lt_of_le (BitRow.lt_length_of_testBit hbit) (h.bounded hrow)
  refine ⟨store.documents[row.length - 1], mem_docsFor.mpr ⟨row.length - 1, ?_, by simp⟩⟩
  rwa [bits, hrow]

/-- Beyond the documents no bit is set. -/
lemma testBit_bits_of_le (h : store.Canonical) {slot : Nat}
    (hslot : store.documents.length ≤ slot) (term : UInt32) :
    (store.bits term).testBit slot = false := by
  rw [← Bool.not_eq_true]
  intro hbit
  have hlength := BitRow.lt_length_of_testBit hbit
  have hle := h.length_bits_le term
  omega

/-- The documents of a term tell its bits. -/
lemma testBit_bits_congr {a b : Bitset} (ha : a.Canonical) (hb : b.Canonical)
    (hdocuments : a.documents = b.documents) {term : UInt32}
    (hdocs : ∀ doc, doc ∈ a.docsFor term ↔ doc ∈ b.docsFor term) (slot : Nat) :
    (a.bits term).testBit slot = (b.bits term).testBit slot := by
  cases hslot : a.documents[slot]? with
  | some doc =>
    rw [Bool.eq_iff_iff, ha.testBit_bits hslot, hb.testBit_bits (hdocuments ▸ hslot), hdocs doc]
  | none =>
    have hout : a.documents.length ≤ slot := List.getElem?_eq_none_iff.mp hslot
    rw [ha.testBit_bits_of_le hout, hb.testBit_bits_of_le (hdocuments ▸ hout)]

/-- **Extensionality.**  Canonical stores over the same documents are equal if every term has the
same documents in both. -/
theorem ext {a b : Bitset} (ha : a.Canonical) (hb : b.Canonical)
    (hdocuments : a.documents = b.documents)
    (hdocs : ∀ term doc, doc ∈ a.docsFor term ↔ doc ∈ b.docsFor term) : a = b := by
  have hrows : a.rows = b.rows := by
    refine IdMap.ext_getD (fun hrow => (ha.trimmed hrow).ne_nil)
      (fun hrow => (hb.trimmed hrow).ne_nil) fun term => ?_
    exact BitRow.eq_of_testBit (ha.bits_eq_nil_or_trimmed term) (hb.bits_eq_nil_or_trimmed term)
      (testBit_bits_congr ha hb hdocuments (hdocs term))
  cases a
  cases b
  dsimp only at hdocuments hrows
  rw [hdocuments, hrows]

end Canonical

/-! ## Registering a document -/

theorem documents_register {store : Bitset} (h : store.Canonical) (doc : UInt32) :
    (store.register doc).documents = IdSet.insertSorted doc store.documents := by
  unfold register
  split
  · rename_i hdoc
    exact (IdSet.insertSorted_of_mem h.ascending hdoc).symm
  · rename_i hdoc
    exact (IdSet.insertSorted_of_not_mem h.ascending hdoc).symm

/-- Behind all documents there is no slot to open, as no row reaches so far. -/
lemma get?_rows_register {store : Bitset} (h : store.Canonical) {doc : UInt32}
    (hdoc : doc ∉ store.documents) (term : UInt32) :
    (store.register doc).rows.get? term
      = (store.rows.get? term).map (BitRow.openSlot (store.slot doc)) := by
  rw [register, if_neg hdoc]
  dsimp only
  split
  · exact IdMap.get?_mapValues
  · rename_i hlast
    rw [List.length_append, List.length_cons, List.length_take, List.length_drop] at hlast
    cases hrow : store.rows.get? term with
    | none => rfl
    | some row =>
      have hbound := h.bounded hrow
      rw [Option.map_some, BitRow.openSlot, if_neg (by omega)]

theorem Canonical.register {store : Bitset} (h : store.Canonical) (doc : UInt32) :
    (store.register doc).Canonical := by
  by_cases hdoc : doc ∈ store.documents
  · rwa [Bitset.register, if_pos hdoc]
  · have hdocuments := documents_register h doc
    refine ⟨hdocuments ▸ IdSet.insertSorted_ascending h.ascending, ?_, ?_⟩
    · intro term row hrow
      rw [get?_rows_register h hdoc, Option.map_eq_some_iff] at hrow
      obtain ⟨old, hold, rfl⟩ := hrow
      exact BitRow.trimmed_openSlot (h.trimmed hold)
    · intro term row hrow
      rw [get?_rows_register h hdoc, Option.map_eq_some_iff] at hrow
      obtain ⟨old, hold, rfl⟩ := hrow
      have hle := BitRow.length_openSlot_le (store.slot doc) old
      have hbound := h.bounded hold
      rw [hdocuments, IdSet.insertSorted_of_not_mem h.ascending hdoc, List.length_append,
        List.length_cons, List.length_take, List.length_drop]
      omega

/-- **Registering loses nothing.**  The documents of every term stay what they were. -/
theorem docsFor_register {store : Bitset} (h : store.Canonical) (doc term : UInt32) :
    (store.register doc).docsFor term = store.docsFor term := by
  by_cases hdoc : doc ∈ store.documents
  · rw [register, if_pos hdoc]
  · have hslot : store.slot doc ≤ store.documents.length :=
      (List.takeWhile_sublist _).length_le
    rw [docsFor, docsFor, get?_rows_register h hdoc]
    cases store.rows.get? term with
    | none => simp
    | some row =>
      rw [register, if_neg hdoc]
      exact congrArg IdSet.ofList (BitRow.select_openSlot row doc hslot)

/-! ## Recording a term -/

lemma documents_record (store : Bitset) (term doc : UInt32) :
    (store.record term doc).documents = (store.register doc).documents := rfl

lemma mem_documents_register {store : Bitset} (h : store.Canonical) {doc other : UInt32} :
    other ∈ (store.register doc).documents ↔ other = doc ∨ other ∈ store.documents := by
  rw [documents_register h, IdSet.mem_insertSorted]

lemma bits_record (store : Bitset) (term doc other : UInt32) :
    (store.record term doc).bits other
      = if other = term then
          BitRow.setBit ((store.register doc).slot doc) ((store.register doc).bits term)
        else (store.register doc).bits other := by
  rw [bits, record, IdMap.get?_alter]
  split <;> rfl

theorem Canonical.record {store : Bitset} (h : store.Canonical) (term doc : UInt32) :
    (store.record term doc).Canonical := by
  have hreg := h.register doc
  refine ⟨hreg.ascending, ?_, ?_⟩
  · intro other row hrow
    rw [Bitset.record, IdMap.get?_alter] at hrow
    split at hrow
    · cases hrow
      exact BitRow.trimmed_setBit (hreg.bits_eq_nil_or_trimmed term)
    · exact hreg.trimmed hrow
  · intro other row hrow
    rw [Bitset.record, IdMap.get?_alter] at hrow
    split at hrow
    · cases hrow
      have hdoc : doc ∈ (store.register doc).documents :=
        (mem_documents_register h).mpr (Or.inl rfl)
      obtain ⟨hslot, -⟩ := List.getElem?_eq_some_iff.mp (hreg.getElem?_slot hdoc)
      have hbits := hreg.length_bits_le term
      rw [bits] at hbits
      rw [BitRow.length_setBit, documents_record]
      omega
    · exact hreg.bounded hrow

/-- **Recording adds one document to one term.** -/
theorem mem_docsFor_record {store : Bitset} (h : store.Canonical) {term doc other found : UInt32} :
    found ∈ (store.record term doc).docsFor other
      ↔ (other = term ∧ found = doc) ∨ found ∈ store.docsFor other := by
  have hreg := h.register doc
  have hdoc : doc ∈ (store.register doc).documents :=
    (mem_documents_register h).mpr (Or.inl rfl)
  rw [← docsFor_register h doc other, mem_docsFor, mem_docsFor, documents_record]
  by_cases hother : other = term
  · subst hother
    simp only [bits_record, if_true, BitRow.testBit_setBit, Bool.or_eq_true, decide_eq_true_iff,
      true_and]
    constructor
    · rintro ⟨slot, hslot | hbit, hfound⟩
      · rw [hslot, hreg.getElem?_slot hdoc] at hfound
        exact Or.inl (Option.some.inj hfound).symm
      · exact Or.inr ⟨slot, hbit, hfound⟩
    · rintro (rfl | ⟨slot, hbit, hfound⟩)
      · exact ⟨_, Or.inl rfl, hreg.getElem?_slot hdoc⟩
      · exact ⟨slot, Or.inr hbit, hfound⟩
  · simp only [bits_record, hother, if_false, false_and, false_or]

/-! ## Rows as they are read -/

theorem length_row {store : Bitset} (h : store.Canonical) (term : UInt32) :
    (store.row term).length = store.documents.length :=
  BitRow.length_fillTo (h.length_bits_le term)

/-- **Reading a row never stops**: no stored row reaches beyond the documents. -/
theorem readRow_eq {store : Bitset} (h : store.Canonical) (term : UInt32) :
    store.readRow term = .ok (store.row term) := by
  have hlength := h.length_bits_le term
  rw [bits] at hlength
  rw [readRow, row]
  cases hrow : store.rows.get? term with
  | none => exact congrArg Except.ok (List.nil_append _).symm
  | some stored =>
    rw [hrow, Option.getD_some] at hlength
    exact BitRow.padTo_eq_ok.mpr ⟨hlength, rfl⟩

/-- What is read of a row is as wide as there are documents. -/
lemma length_of_readRow {store : Bitset} {term : UInt32} {row : BitRow}
    (h : store.readRow term = .ok row) : row.length = store.documents.length := by
  rw [readRow] at h
  cases hrow : store.rows.get? term with
  | none =>
    rw [hrow] at h
    cases h
    exact BitRow.length_zeros _
  | some stored =>
    rw [hrow] at h
    obtain ⟨hle, rfl⟩ := BitRow.padTo_eq_ok.mp h
    exact BitRow.length_fillTo hle

lemma testBit_row {store : Bitset} (h : store.Canonical) {slot : Nat} {doc : UInt32}
    (hdoc : store.documents[slot]? = some doc) (term : UInt32) :
    (store.row term).testBit slot = true ↔ doc ∈ store.docsFor term := by
  rw [row, BitRow.testBit_fillTo]
  exact h.testBit_bits hdoc

/-- **The row of a term selects its documents**, and they are read the greatest first. -/
theorem decode_row {store : Bitset} (h : store.Canonical) (term : UInt32) :
    store.decode (store.row term) = (store.docsFor term).toList.reverse := by
  have hselect : (store.row term).select store.documents
      = store.documents.filter fun doc => decide (doc ∈ store.docsFor term) := by
    refine BitRow.select_eq_filter fun slot doc hdoc => ?_
    rw [Bool.eq_iff_iff, testBit_row h hdoc, decide_eq_true_iff]
  rw [decode, hselect]
  congr 1
  refine eq_of_ascending (h.ascending.filter _) (store.docsFor term).ascending fun doc => ?_
  rw [List.mem_filter, decide_eq_true_iff, ← IdSet.mem_def, and_iff_right_iff_imp]
  intro hdoc
  obtain ⟨slot, -, hslot⟩ := mem_docsFor.mp hdoc
  exact List.mem_of_getElem? hslot

end Posting.Bitset

end Retrieval

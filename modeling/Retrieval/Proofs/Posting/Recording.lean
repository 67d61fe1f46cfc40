import Mathlib.Tactic.Common
import Retrieval.Proofs.Posting.Store

/-!
# Registering and recording one after the other

Postings come about by many single changes: a builder registers a document and records its terms,
and a reader registers all documents and records what a file lists.  `registerEach` and `recordEach`
are such runs, and each lemma below lifts what one change does to what a run does, by induction over
the run.

Positions are the only thing that depends on how often a pair is recorded: those of all its records
stand one behind the other (`recordedPositions`, `positions?_recordEach`).

A store that comes about from nothing, by registering documents and then recording, has exactly what
was recorded (`mem_docsFor_ofRecords`, `mem_registered_ofRecords`, `positions?_ofRecords`).
-/

namespace Retrieval.Posting.Store

/-! ## Registering -/

/-- Registers documents one after the other. -/
def registerEach (store : Store) (documents : List UInt32) : Store :=
  documents.foldl register store

lemma canonical_registerEach {store : Store} (h : store.Canonical) (documents : List UInt32) :
    (store.registerEach documents).Canonical := by
  induction documents generalizing store with
  | nil => exact h
  | cons doc rest ih => exact ih (h.register doc)

@[simp]
lemma representation_registerEach (store : Store) (documents : List UInt32) :
    (store.registerEach documents).representation = store.representation := by
  induction documents generalizing store with
  | nil => rfl
  | cons doc rest ih => exact (ih (store.register doc)).trans (representation_register store doc)

lemma docsFor_registerEach {store : Store} (h : store.Canonical) (documents : List UInt32)
    (term : UInt32) : (store.registerEach documents).docsFor term = store.docsFor term := by
  induction documents generalizing store with
  | nil => rfl
  | cons doc rest ih => exact (ih (h.register doc)).trans (docsFor_register h doc term)

@[simp]
lemma positions?_registerEach (store : Store) (documents : List UInt32) (term doc : UInt32) :
    (store.registerEach documents).positions? term doc = store.positions? term doc := by
  induction documents generalizing store with
  | nil => rfl
  | cons first rest ih =>
    exact (ih (store.register first)).trans (positions?_register store first term doc)

lemma mem_registered_registerEach {store : Store} (h : store.Canonical)
    (hbitset : store.representation = .bitset) {documents : List UInt32} {doc : UInt32} :
    doc ∈ (store.registerEach documents).registered ↔
      doc ∈ documents ∨ doc ∈ store.registered := by
  induction documents generalizing store with
  | nil => simp [registerEach]
  | cons first rest ih =>
    have hrest := ih (h.register first) ((representation_register store first).trans hbitset)
    rw [registerEach, List.foldl_cons, ← registerEach, hrest, registered_register h, if_pos hbitset,
      IdSet.mem_insertSorted, List.mem_cons]
    tauto

/-- Bit rows that refer to no other documents have those for slots that are registered last. -/
theorem registered_registerEach_of_subset {store : Store} (h : store.Canonical)
    (hbitset : store.representation = .bitset) {documents : List UInt32}
    (hascending : documents.Pairwise (· < ·))
    (hsubset : ∀ doc ∈ store.registered, doc ∈ documents) :
    (store.registerEach documents).registered = documents := by
  refine eq_of_ascending (canonical_registerEach h documents).ascending_registered hascending
    fun doc => ?_
  rw [mem_registered_registerEach h hbitset]
  exact ⟨fun hdoc => hdoc.elim id (hsubset doc), Or.inl⟩

/-- Registering registered documents changes nothing. -/
lemma registerEach_of_registered {store : Store} {documents : List UInt32}
    (h : store.representation = .bitset → ∀ doc ∈ documents, doc ∈ store.registered) :
    store.registerEach documents = store := by
  induction documents with
  | nil => rfl
  | cons doc rest ih =>
    rw [registerEach, List.foldl_cons,
      register_of_registered fun hbitset => h hbitset doc List.mem_cons_self]
    exact ih fun hbitset other hother => h hbitset other (List.mem_cons_of_mem doc hother)

/-! ## Recording -/

/-- A term in a document, with its positions there. -/
abbrev Record := UInt32 × UInt32 × List UInt32

/-- The pairs of a term and a document that records name. -/
def pairs (records : List Record) : List (UInt32 × UInt32) :=
  records.map fun record => (record.1, record.2.1)

@[simp]
lemma pairs_nil : pairs [] = [] := rfl

@[simp]
lemma pairs_cons (record : Record) (rest : List Record) :
    pairs (record :: rest) = (record.1, record.2.1) :: pairs rest := rfl

lemma mem_pairs {records : List Record} {term doc : UInt32} :
    (term, doc) ∈ pairs records ↔ ∃ positions, (term, doc, positions) ∈ records := by
  simp [pairs]

/-- Records terms in documents one after the other. -/
def recordEach (store : Store) (records : List Record) : Store :=
  records.foldl (fun store record => store.record record.1 record.2.1 record.2.2) store

lemma canonical_recordEach {store : Store} (h : store.Canonical) (records : List Record) :
    (store.recordEach records).Canonical := by
  induction records generalizing store with
  | nil => exact h
  | cons record rest ih => exact ih (h.record record.1 record.2.1 record.2.2)

@[simp]
lemma representation_recordEach (store : Store) (records : List Record) :
    (store.recordEach records).representation = store.representation := by
  induction records generalizing store with
  | nil => rfl
  | cons record rest ih => exact (ih (store.record _ _ _)).trans (representation_record store _ _ _)

lemma mem_registered_recordEach {store : Store} (h : store.Canonical)
    (hbitset : store.representation = .bitset) {records : List Record} {doc : UInt32} :
    doc ∈ (store.recordEach records).registered ↔
      (∃ term, (term, doc) ∈ pairs records) ∨ doc ∈ store.registered := by
  induction records generalizing store with
  | nil => simp [recordEach]
  | cons record rest ih =>
    have hrest := ih (h.record record.1 record.2.1 record.2.2)
      ((representation_record store _ _ _).trans hbitset)
    rw [recordEach, List.foldl_cons, ← recordEach, hrest, registered_record h,
      registered_register h, if_pos hbitset, IdSet.mem_insertSorted]
    simp only [pairs_cons, List.mem_cons, Prod.mk.injEq, exists_or, exists_and_right, exists_eq,
      true_and]
    tauto

/-- Recording in registered documents registers nothing. -/
lemma registered_recordEach {store : Store} (h : store.Canonical) {records : List Record}
    (hdocs : store.representation = .bitset → ∀ record ∈ records, record.2.1 ∈ store.registered) :
    (store.recordEach records).registered = store.registered := by
  induction records generalizing store with
  | nil => rfl
  | cons record rest ih =>
    have hfirst : (store.record record.1 record.2.1 record.2.2).registered = store.registered := by
      rw [registered_record h,
        register_of_registered fun hbitset => hdocs hbitset record List.mem_cons_self]
    rw [recordEach, List.foldl_cons]
    refine (ih (h.record _ _ _) fun hbitset other hother => ?_).trans hfirst
    rw [representation_record] at hbitset
    rw [hfirst]
    exact hdocs hbitset other (List.mem_cons_of_mem record hother)

/-- The documents of a term after a run are those it had and those it was recorded in. -/
theorem mem_docsFor_recordEach {store : Store} (h : store.Canonical) {records : List Record}
    {term doc : UInt32} :
    doc ∈ (store.recordEach records).docsFor term ↔
      (term, doc) ∈ pairs records ∨ doc ∈ store.docsFor term := by
  induction records generalizing store with
  | nil => simp [recordEach]
  | cons record rest ih =>
    rw [recordEach, List.foldl_cons, ← recordEach, ih (h.record _ _ _), mem_docsFor_record h,
      pairs_cons, List.mem_cons, Prod.mk.injEq, or_left_comm, or_assoc]

/-- The positions that a run records for a pair, in the order of the records. -/
def recordedPositions (records : List Record) (term doc : UInt32) : List UInt32 :=
  records.flatMap fun record => if record.1 = term ∧ record.2.1 = doc then record.2.2 else []

lemma recordedPositions_cons (record : Record) (rest : List Record) (term doc : UInt32) :
    recordedPositions (record :: rest) term doc
      = (if record.1 = term ∧ record.2.1 = doc then record.2.2 else [])
        ++ recordedPositions rest term doc := rfl

lemma recordedPositions_of_not_mem {records : List Record} {term doc : UInt32}
    (h : (term, doc) ∉ pairs records) : recordedPositions records term doc = [] := by
  unfold recordedPositions
  rw [List.flatMap_eq_nil_iff]
  refine fun record hrecord => if_neg fun hpair => h ?_
  rw [← hpair.1, ← hpair.2]
  exact List.mem_map_of_mem hrecord

/-- A pair that comes in a run gets the positions of all its records behind those that it had. -/
theorem positions?_recordEach {store : Store} (h : store.representation = .positional)
    (records : List Record) (term doc : UInt32) :
    (store.recordEach records).positions? term doc
      = if (term, doc) ∈ pairs records then
          some ((store.positions? term doc).getD [] ++ recordedPositions records term doc)
        else store.positions? term doc := by
  induction records generalizing store with
  | nil => simp [recordEach]
  | cons record rest ih =>
    have hlater : (store.record record.1 record.2.1 record.2.2).representation = .positional :=
      (representation_record store _ _ _).trans h
    rw [recordEach, List.foldl_cons, ← recordEach, ih hlater, positions?_record h,
      recordedPositions_cons]
    simp only [pairs_cons, List.mem_cons, Prod.mk.injEq]
    by_cases hpair : term = record.1 ∧ doc = record.2.1
    · obtain ⟨rfl, rfl⟩ := hpair
      by_cases hrest : (record.1, record.2.1) ∈ pairs rest
      · simp [hrest]
      · -- no positions of the pair follow
        simp [hrest, recordedPositions_of_not_mem hrest]
    · have hpair' : ¬ (record.1 = term ∧ record.2.1 = doc) :=
        fun h => hpair ⟨h.1.symm, h.2.symm⟩
      simp [hpair, hpair']

/-- A pair that comes once has the positions of its record. -/
lemma recordedPositions_of_mem {records : List Record} (hnodup : (pairs records).Nodup)
    {term doc : UInt32} {positions : List UInt32} (hmem : (term, doc, positions) ∈ records) :
    recordedPositions records term doc = positions := by
  induction records with
  | nil => cases hmem
  | cons record rest ih =>
    rw [pairs_cons, List.nodup_cons] at hnodup
    rw [recordedPositions_cons]
    rcases List.mem_cons.mp hmem with rfl | hrest
    · rw [if_pos ⟨rfl, rfl⟩, recordedPositions_of_not_mem hnodup.1, List.append_nil]
    · rw [if_neg, List.nil_append, ih hnodup.2 hrest]
      rintro ⟨rfl, rfl⟩
      exact hnodup.1 (mem_pairs.mpr ⟨positions, hrest⟩)

/-! ## From the empty store -/

section

variable {representation : Representation} {documents : List UInt32} {records : List Record}
  {term doc : UInt32}

/-- The store with the given documents registered and then the given records made. -/
def ofRecords (representation : Representation) (documents : List UInt32)
    (records : List Record) : Store :=
  ((empty representation).registerEach documents).recordEach records

lemma canonical_ofRecords (representation : Representation) (documents : List UInt32)
    (records : List Record) : (ofRecords representation documents records).Canonical :=
  canonical_recordEach (canonical_registerEach (canonical_empty representation) documents) records

@[simp]
lemma representation_ofRecords (representation : Representation) (documents : List UInt32)
    (records : List Record) :
    (ofRecords representation documents records).representation = representation := by
  rw [ofRecords, representation_recordEach, representation_registerEach, representation_empty]

/-- The documents of a term are those that it was recorded in. -/
theorem mem_docsFor_ofRecords :
    doc ∈ (ofRecords representation documents records).docsFor term ↔
      (term, doc) ∈ pairs records := by
  rw [ofRecords, mem_docsFor_recordEach (canonical_registerEach (canonical_empty _) _),
    docsFor_registerEach (canonical_empty _), docsFor_empty]
  simp

/-- The slots are for the documents that were registered and for those that were recorded in. -/
theorem mem_registered_ofRecords :
    doc ∈ (ofRecords .bitset documents records).registered ↔
      doc ∈ documents ∨ ∃ term, (term, doc) ∈ pairs records := by
  have hempty := canonical_empty .bitset
  rw [ofRecords, mem_registered_recordEach (canonical_registerEach hempty _) (by simp),
    mem_registered_registerEach hempty rfl, or_comm]
  simp [registered, empty]

/-- The positions of a pair are those of all its records, one behind the other. -/
theorem positions?_ofRecords :
    (ofRecords .positional documents records).positions? term doc
      = if (term, doc) ∈ pairs records then some (recordedPositions records term doc)
        else none := by
  have hempty : (empty .positional).positions? term doc = none := rfl
  rw [ofRecords, positions?_recordEach (by simp), positions?_registerEach, hempty]
  rfl

end

end Retrieval.Posting.Store

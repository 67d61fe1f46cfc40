import Mathlib.Tactic.Common
import Retrieval.Proofs.Corpus.Accepted
import Retrieval.Proofs.Posting.Recording

/-!
# The postings of documents

`Recorded` says what postings hold after documents were recorded: a document is found under an id
exactly if one of its stems is bound to that id, positional postings keep the places of these
stems, and bit rows have the documents for slots, in their order.

A document is recorded in two moves: it is registered, and then each term that was seen in it is
recorded with its positions.  `Recorded.append` is the step, and `Recorded.mono` lets the table of
terms grow.  Neither looks into a layout; what registering and recording do to a store of any
layout is told by `Retrieval.Proofs.Posting.Store`, and what a run of records does by
`Retrieval.Proofs.Posting.Recording`.
-/

namespace Retrieval

open Corpus (Document)
open Posting (Store)
open Retrieval.Symbol (Table)

namespace Builder

open Occurrences (bindsTo kept)

/-! ## All terms of a document -/

variable {store : Store}

/-- The terms seen in a document, as a run of records. -/
def recordsOf (doc : UInt32) (positions : IdMap (List UInt32)) : List Store.Record :=
  positions.entries.map fun entry => (entry.1, doc, entry.2)

lemma recordAll_eq (store : Store) (doc : UInt32) (positions : IdMap (List UInt32)) :
    recordAll store doc positions = store.recordEach (recordsOf doc positions) := by
  rw [recordAll, Store.recordEach, recordsOf, List.foldl_map]

lemma mem_pairs_recordsOf {doc id found : UInt32} {positions : IdMap (List UInt32)} :
    (id, found) ∈ Store.pairs (recordsOf doc positions) ↔
      found = doc ∧ (positions.get? id).isSome = true := by
  simp only [Store.mem_pairs, recordsOf, List.mem_map, Prod.mk.injEq, Option.isSome_iff_exists,
    IdMap.get?_eq_some_iff]
  constructor
  · rintro ⟨places, entry, hentry, rfl, rfl, rfl⟩
    exact ⟨rfl, entry.2, hentry⟩
  · rintro ⟨rfl, places, hentry⟩
    exact ⟨places, (id, places), hentry, rfl, rfl, rfl⟩

lemma canonical_recordAll (h : store.Canonical) (doc : UInt32)
    (positions : IdMap (List UInt32)) : (recordAll store doc positions).Canonical := by
  rw [recordAll_eq]
  exact Store.canonical_recordEach h _

@[simp]
lemma representation_recordAll (store : Store) (doc : UInt32) (positions : IdMap (List UInt32)) :
    (recordAll store doc positions).representation = store.representation := by
  rw [recordAll_eq, Store.representation_recordEach]

/-- Recording in a registered document registers nothing. -/
lemma registered_recordAll (h : store.Canonical) {doc : UInt32}
    (hdoc : store.representation = .bitset → doc ∈ store.registered)
    (positions : IdMap (List UInt32)) :
    (recordAll store doc positions).registered = store.registered := by
  rw [recordAll_eq]
  refine Store.registered_recordEach h fun hbitset record hrecord => ?_
  obtain ⟨entry, _, rfl⟩ := List.mem_map.mp hrecord
  exact hdoc hbitset

/-- The documents of each term after the terms of one document were recorded. -/
lemma mem_docsFor_recordAll (h : store.Canonical) {doc id found : UInt32}
    {positions : IdMap (List UInt32)} :
    found ∈ (recordAll store doc positions).docsFor id
      ↔ (found = doc ∧ (positions.get? id).isSome = true) ∨ found ∈ store.docsFor id := by
  rw [recordAll_eq, Store.mem_docsFor_recordEach h, mem_pairs_recordsOf]

/-- The positions after the terms of one document were recorded. -/
lemma positions?_recordAll (h : store.representation = .positional) {doc id found : UInt32}
    {positions : IdMap (List UInt32)} (hnew : store.positions? id doc = none) :
    (recordAll store doc positions).positions? id found
      = if found = doc then positions.get? id else store.positions? id found := by
  rw [recordAll_eq, Store.positions?_recordEach h]
  simp only [mem_pairs_recordsOf]
  by_cases hdoc : found = doc
  · subst hdoc
    rw [hnew]
    cases hplaces : positions.get? id with
    | none => simp
    | some places =>
      have hmem : (id, found, places) ∈ recordsOf found positions :=
        List.mem_map.mpr ⟨_, IdMap.get?_eq_some_iff.mp hplaces, rfl⟩
      have hnodup : (Store.pairs (recordsOf found positions)).Nodup := by
        refine List.Nodup.of_map Prod.fst ?_
        rw [recordsOf, Store.pairs, List.map_map, List.map_map]
        exact positions.nodup_keys
      rw [Store.recordedPositions_of_mem hnodup hmem]
      simp
  · simp [hdoc]

/-! ## The documents recorded so far -/

/-- What postings hold after documents were recorded whose terms stand in a table. -/
structure Recorded (analysis : Analysis) (terms : Table) (documents : List Document)
    (store : Store) : Prop where
  canonical : store.Canonical
  registered : store.representation = .bitset → store.registered = documents.map (·.id)
  docsFor : ∀ {id found}, found ∈ store.docsFor id ↔
    ∃ document ∈ documents, document.id = found ∧
      ∃ stem ∈ document.stems analysis, bindsTo terms id stem = true
  positions : store.representation = .positional → ∀ document ∈ documents, ∀ id,
    store.positions? id document.id
      = withPlaces none (places (bindsTo terms id) 0 (document.stems analysis))

namespace Recorded

variable {analysis : Analysis} {terms : Table} {documents : List Document}

lemma empty (analysis : Analysis) (terms : Table) (representation : Posting.Representation) :
    Recorded analysis terms [] (.empty representation) where
  canonical := Store.canonical_empty representation
  registered _ := by cases representation <;> rfl
  docsFor := by simp
  positions _ := by simp

lemma bindsTo_extends {later : Table} (hlater : terms.Extends later) {stem : String}
    (hbound : stem ≠ "" → ∃ id, terms.lookup stem = some id) (id : UInt32) :
    bindsTo later id stem = bindsTo terms id stem := by
  by_cases hempty : stem = ""
  · simp [bindsTo, hempty]
  · obtain ⟨held, hheld⟩ := hbound hempty
    simp [bindsTo, hheld, hlater stem held hheld]

lemma places_congr {wanted wanted' : String → Bool} {offset : Nat} {stems : List String}
    (h : ∀ stem ∈ stems, wanted stem = wanted' stem) :
    places wanted offset stems = places wanted' offset stems := by
  induction stems generalizing offset with
  | nil => rfl
  | cons stem rest ih =>
    rw [List.forall_mem_cons] at h
    rw [places, places, h.1, ih h.2]

/-- The table of terms may grow, once all terms of the documents stand in it. -/
theorem mono (h : Recorded analysis terms documents store) {later : Table}
    (hlater : terms.Extends later)
    (hbound : ∀ document ∈ documents, ∀ stem ∈ document.stems analysis, stem ≠ "" →
      ∃ id, terms.lookup stem = some id) :
    Recorded analysis later documents store where
  canonical := h.canonical
  registered := h.registered
  docsFor {id found} := by
    rw [h.docsFor]
    refine exists_congr fun document => and_congr_right fun hdocument =>
      and_congr_right fun _ => exists_congr fun stem => and_congr_right fun hstem => ?_
    rw [bindsTo_extends hlater (hbound document hdocument stem hstem)]
  positions hstore document hdocument id := by
    rw [h.positions hstore document hdocument id]
    congr 1
    exact places_congr fun stem hstem =>
      (bindsTo_extends hlater (hbound document hdocument stem hstem) id).symm

/-- A document above all others is registered behind them. -/
lemma registered_register (h : Recorded analysis terms documents store) {document : Document}
    (habove : ∀ other ∈ documents, other.id < document.id)
    (hstore : store.representation = .bitset) :
    (store.register document.id).registered = (documents ++ [document]).map (·.id) := by
  rw [Store.registered_register h.canonical, if_pos hstore, h.registered hstore,
    IdSet.insertSorted_of_forall_lt, List.map_append, List.map_singleton]
  intro id hid
  obtain ⟨other, hother, rfl⟩ := List.mem_map.mp hid
  exact habove other hother

/-- A document above all others has no positions yet. -/
lemma positions?_register_eq_none (h : Recorded analysis terms documents store)
    {document : Document} (habove : ∀ other ∈ documents, other.id < document.id)
    (hstore : store.representation = .positional) (id : UInt32) :
    (store.register document.id).positions? id document.id = none := by
  rw [Store.positions?_register, ← Option.not_isSome_iff_eq_none,
    ← Store.mem_docsFor_iff_positions? hstore, h.docsFor]
  rintro ⟨earlier, hearlier, hid, -⟩
  exact UInt32.lt_irrefl _ (hid ▸ habove earlier hearlier)

/-- **One more document.**  It is recorded behind all documents with lesser ids. -/
theorem append (h : Recorded analysis terms documents store) (document : Document)
    (habove : ∀ other ∈ documents, other.id < document.id) {positions : IdMap (List UInt32)}
    (hpositions : ∀ id, positions.get? id
      = withPlaces none (places (bindsTo terms id) 0 (document.stems analysis))) :
    Recorded analysis terms (documents ++ [document])
      (recordAll (store.register document.id) document.id positions) where
  canonical := canonical_recordAll (h.canonical.register document.id) _ _
  registered hstore := by
    rw [representation_recordAll, Store.representation_register] at hstore
    rw [registered_recordAll (h.canonical.register document.id) _ positions,
      h.registered_register habove hstore]
    intro _
    rw [h.registered_register habove hstore]
    simp
  docsFor {id found} := by
    rw [mem_docsFor_recordAll (h.canonical.register document.id),
      Store.docsFor_register h.canonical, h.docsFor, hpositions, isSome_withPlaces, places_ne_nil]
    simp only [Option.isSome_none, Bool.false_eq_true, false_or, List.mem_append,
      List.mem_singleton]
    constructor
    · rintro (⟨hfound, hstem⟩ | ⟨other, hother, hrest⟩)
      · exact ⟨document, Or.inr rfl, hfound.symm, hstem⟩
      · exact ⟨other, Or.inl hother, hrest⟩
    · rintro ⟨other, hother | hother, hfound, hstem⟩
      · exact Or.inr ⟨other, hother, hfound, hstem⟩
      · subst hother
        exact Or.inl ⟨hfound.symm, hstem⟩
  positions hstore other hother id := by
    rw [representation_recordAll, Store.representation_register] at hstore
    rw [positions?_recordAll (by rw [Store.representation_register, hstore])
      (h.positions?_register_eq_none habove hstore id)]
    rcases List.mem_append.mp hother with hearlier | hlast
    · rw [if_neg (UInt32.ne_of_lt (habove other hearlier)), Store.positions?_register]
      exact h.positions hstore other hearlier id
    · rw [List.mem_singleton.mp hlast, if_pos rfl]
      exact hpositions id

end Recorded

end Builder

end Retrieval

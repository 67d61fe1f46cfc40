import Mathlib.Tactic.Common
import Retrieval.Proofs.Index.Build

/-!
# Positions are counted from 1

A builder counts the tokens of a document from 1, and it stops where a count does not fit.  So
whatever it records has positions, and no position is 0; this takes no bound on the corpus or on the
length of a document.  Ranking relies on both: a document with a term is one with a position of the
term, and the scan for windows cannot stop.

The invariant is carried along as the builder works: by a stem (`Occurrences.AllCounted.add`), by
the stems of a document, by what is recorded of a document (`Store.AllCounted.recordEach`), and by a
run over records (`allCounted_of_addAll`).
-/

namespace Retrieval

open Corpus (Record)
open Posting (Store)

namespace Posting

/-- There are positions, and they are counted from 1. -/
structure Counted (positions : List UInt32) : Prop where
  nonempty : positions ≠ []
  positive : ∀ position ∈ positions, 1 ≤ position.toNat

/-- Counted positions may be put behind such positions. -/
lemma Counted.behind {found : List UInt32} {known? : Option (List UInt32)} (h : Counted found)
    (hknown : ∀ positions, known? = some positions → Counted positions) :
    Counted (known?.getD [] ++ found) where
  nonempty := List.append_ne_nil_of_right_ne_nil _ h.nonempty
  positive position hposition := by
    rcases List.mem_append.mp hposition with hearlier | hlater
    · cases known? with
      | none => cases hearlier
      | some positions => exact (hknown positions rfl).positive position hearlier
    · exact h.positive position hlater

/-- What comes of counting on is not 0. -/
lemma counted_of_checkedAdd {offset position : UInt32} (h : checkedAdd offset 1 = .ok position) :
    Counted [position] := by
  obtain ⟨hfits, hsum⟩ := checkedAdd_eq_ok.mp h
  have hnext : position.toNat = offset.toNat + 1 := by
    rw [← hsum, UInt32.toNat_add]
    exact Nat.mod_eq_of_lt hfits
  refine ⟨List.cons_ne_nil _ _, fun found hfound => ?_⟩
  rw [List.mem_singleton.mp hfound, hnext]
  exact Nat.le_add_left 1 _

namespace Store

/-- Whether all positions that a store keeps are counted. -/
def AllCounted (store : Store) : Prop :=
  ∀ term doc positions, store.positions? term doc = some positions → Counted positions

lemma AllCounted.record {store : Store} (h : store.AllCounted) (term doc : UInt32)
    {positions : List UInt32} (hpositions : Counted positions) :
    (store.record term doc positions).AllCounted := by
  intro other found kept hkept
  by_cases hstore : store.representation = .positional
  · rw [positions?_record hstore] at hkept
    split at hkept
    · obtain rfl := Option.some.inj hkept
      exact hpositions.behind (h term doc)
    · exact h other found kept hkept
  · -- the other layouts keep no positions
    cases store with
    | bitset rows => cases hkept
    | docSet rows => cases hkept
    | positional rows => exact absurd rfl hstore

lemma AllCounted.recordEach {store : Store} (h : store.AllCounted) {records : List Store.Record}
    (hrecords : ∀ record ∈ records, Counted record.2.2) : (store.recordEach records).AllCounted := by
  induction records generalizing store with
  | nil => exact h
  | cons record rest ih =>
    rw [List.forall_mem_cons] at hrecords
    exact ih (h.record record.1 record.2.1 hrecords.1) hrecords.2

end Store

end Posting

namespace Builder

open Posting (Counted)

namespace Occurrences

/-- Whether all positions seen in a document are counted. -/
def AllCounted (seen : Occurrences) : Prop :=
  ∀ id positions, seen.positions.get? id = some positions → Counted positions

lemma AllCounted.add {seen later : Occurrences} (h : seen.AllCounted) {stem : String} {offset : Nat}
    (hadd : seen.add stem offset = .ok later) : later.AllCounted := by
  obtain ⟨term, -, -, position, hposition, hpositions⟩ := add_eq_ok.mp hadd
  intro id found hfound
  rw [hpositions, IdMap.get?_alter] at hfound
  split at hfound
  · obtain rfl := Option.some.inj hfound
    exact (Posting.counted_of_checkedAdd hposition).behind (h term)
  · exact h id found hfound

lemma AllCounted.addAll {lemmatize : Stem.Lemmatizer} {seen later : Occurrences}
    (h : seen.AllCounted) {tokens : List String} {offset : Nat}
    (hadd : seen.addAll lemmatize offset tokens = .ok later) : later.AllCounted := by
  induction tokens generalizing seen offset with
  | nil =>
    cases hadd
    exact h
  | cons token rest ih =>
    by_cases hempty : lemmatize token = ""
    · rw [addAll_cons_of_empty hempty] at hadd
      exact ih h hadd
    · rw [addAll_cons_of_ne hempty] at hadd
      obtain ⟨between, hbetween, hadd⟩ := bind_eq_ok.mp hadd
      exact ih (h.add hbetween) hadd

end Occurrences

lemma allCounted_recordAll {store : Store} (h : store.AllCounted) (doc : UInt32)
    {seen : Occurrences} (hseen : seen.AllCounted) :
    (recordAll store doc seen.positions).AllCounted := by
  rw [recordAll_eq]
  apply h.recordEach
  intro record hrecord
  obtain ⟨⟨id, positions⟩, hentry, rfl⟩ := List.mem_map.mp hrecord
  exact hseen id positions (IdMap.get?_eq_some_iff.mpr hentry)

variable {analysis : Analysis} {builder later : Builder}

/-- What a call does to the postings: nothing, or it records the positions seen in a document. -/
lemma postings_of_addDocument {url content : String} {id? : Option UInt32}
    (hadd : builder.addDocument analysis url content = .ok (id?, later)) :
    later.index.postings = builder.index.postings ∨ ∃ doc seen,
      (⟨builder.index.terms, builder.nextTerm, .empty⟩ : Occurrences).addAll analysis.lemmatize 0
        (analysis.normalize content) = .ok seen ∧
      later.index.postings = recordAll (builder.index.postings.register doc) doc seen.positions := by
  unfold addDocument at hadd
  obtain ⟨nextDoc, -, hadd⟩ := bind_eq_ok.mp hadd
  by_cases hknown : (builder.index.docs.lookup url).isSome = true
  · rw [if_pos hknown] at hadd
    cases hadd
    exact Or.inl rfl
  · rw [if_neg hknown] at hadd
    obtain ⟨⟨doc, docs⟩, -, hadd⟩ := bind_eq_ok.mp hadd
    obtain ⟨seen, hseen, hadd⟩ := bind_eq_ok.mp hadd
    cases hadd
    exact Or.inr ⟨doc, seen, hseen, rfl⟩

/-- **One record.**  Whatever a record adds has counted positions. -/
lemma allCounted_addDocument (h : builder.index.postings.AllCounted) {url content : String}
    {id? : Option UInt32} (hadd : builder.addDocument analysis url content = .ok (id?, later)) :
    later.index.postings.AllCounted := by
  rcases postings_of_addDocument hadd with hsame | ⟨doc, seen, hseen, hpostings⟩
  · rw [hsame]
    exact h
  · rw [hpostings]
    apply allCounted_recordAll
    · intro term found positions hpositions
      rw [Store.positions?_register] at hpositions
      exact h term found positions hpositions
    · refine Occurrences.AllCounted.addAll (fun id positions hpositions => ?_) hseen
      cases hpositions

lemma allCounted_addAll (h : builder.index.postings.AllCounted) {records : List Record}
    {answers : List (Option UInt32)}
    (hadd : builder.addAll analysis records = .ok (answers, later)) :
    later.index.postings.AllCounted := by
  induction records generalizing builder answers with
  | nil =>
    cases hadd
    exact h
  | cons record rest ih =>
    rw [addAll_cons] at hadd
    obtain ⟨⟨id?, between⟩, hfirst, hadd⟩ := bind_eq_ok.mp hadd
    obtain ⟨⟨others, last⟩, hrest, hadd⟩ := bind_eq_ok.mp hadd
    cases hadd
    exact ih (allCounted_addDocument h hfirst) hrest

/-- **A run.**  Whatever records were added, all positions that a builder keeps are counted. -/
theorem allCounted_of_addAll {representation : Posting.Representation} {records : List Record}
    {answers : List (Option UInt32)}
    (hadd : (empty representation).addAll analysis records = .ok (answers, builder)) :
    builder.index.postings.AllCounted := by
  refine allCounted_addAll (fun term doc positions hpositions => ?_) hadd
  cases representation <;> cases hpositions

end Builder

end Retrieval

import Mathlib.Data.List.Basic
import Mathlib.Tactic.Common
import Retrieval.Proofs.Posting.Store
import Retrieval.Proofs.Rank.Window
import Retrieval.Rank.Ranking

/-!
# The ranking lists the candidates, the best first

Over positional postings whose positions are counted from 1, `rank` never stops, and lists each
document in which every given term has a position exactly once, with the best window over these
positions and the score of that window (`rank_spec`).  The list is in the order of `Scored.le`,
which is total and transitive, since scores are ordered like the patterns that hold them.
-/

namespace Retrieval.Rank

open Posting (Positions)

/-- The positions of each distinct term in a document. -/
def positionsIn (store : Positions) (terms : List UInt32) (doc : UInt32) : List (List UInt32) :=
  (distinct terms).map fun term => (store.positions? term doc).getD []

/-- Whether every term has a position in a document. -/
def HoldsEach (store : Positions) (terms : List UInt32) (doc : UInt32) : Prop :=
  ∀ term ∈ terms, ∃ positions, store.positions? term doc = some positions ∧ positions ≠ []

/-- What the ranking says of a document: every term has a position in it, and it is scored by the
best window over them. -/
structure Scored.Sound (store : Positions) (terms : List UInt32) (scored : Scored) : Prop where
  holds : HoldsEach store terms scored.doc
  best : scored.window.Best (Covers (positionsIn store terms scored.doc))
  score : scored.score = scored.window.score

/-! ## The order -/

lemma Scored.le_iff {a b : Scored} :
    a.le b = true ↔ b.score < a.score ∨ (a.score = b.score ∧ a.doc ≤ b.doc) := by
  rw [Scored.le, Bool.or_eq_true, Bool.and_eq_true, beq_iff_eq, decide_eq_true_iff,
    decide_eq_true_iff]

/-- Patterns and ids are compared as numbers. -/
lemma Scored.le_iff_toNat {a b : Scored} :
    a.le b = true ↔ b.score.bits.toNat < a.score.bits.toNat ∨
      (a.score.bits.toNat = b.score.bits.toNat ∧ a.doc.toNat ≤ b.doc.toNat) := by
  have hscore : a.score = b.score ↔ a.score.bits.toNat = b.score.bits.toNat := by
    rw [UInt64.toNat_inj]
    exact ⟨fun h => congrArg _ h, fun h => congrArg Binary64.mk h⟩
  rw [Scored.le_iff, hscore, UInt32.le_iff_toNat_le]
  exact Iff.or UInt64.lt_iff_toNat_lt Iff.rfl

lemma Scored.le_trans (a b c : Scored) (hab : a.le b = true) (hbc : b.le c = true) :
    a.le c = true := by
  rw [Scored.le_iff_toNat] at hab hbc ⊢
  omega

lemma Scored.le_total (a b : Scored) : (a.le b || b.le a) = true := by
  rw [Bool.or_eq_true, Scored.le_iff_toNat, Scored.le_iff_toNat]
  omega

/-! ## The candidates -/

variable {rows : List (IdMap (List UInt32))}

/-- Some row is shortest unless there is none. -/
lemma exists_shortest (h : rows ≠ []) : ∃ row ∈ rows, rows.minOn? IdMap.size = some row := by
  obtain ⟨first, rest, rfl⟩ := List.exists_cons_of_ne_nil h
  exact ⟨_, List.minOn?_mem rfl, rfl⟩

/-- The shortest row has the documents of all rows, as every other row has them. -/
lemma mem_candidates {doc : UInt32} :
    doc ∈ candidates rows ↔ rows ≠ [] ∧ ∀ row ∈ rows, (row.get? doc).isSome = true := by
  by_cases hrows : rows = []
  · subst hrows
    exact ⟨fun h => absurd h List.not_mem_nil, fun h => absurd rfl h.1⟩
  · obtain ⟨shortest, hmem, hshortest⟩ := exists_shortest hrows
    rw [candidates, hshortest]
    dsimp only
    rw [List.mem_filter, ← IdSet.mem_def, IdMap.mem_keys, List.all_eq_true]
    exact ⟨fun h => ⟨hrows, h.2⟩, fun h => ⟨h.2 shortest hmem, h.2⟩⟩

lemma ascending_candidates : (candidates rows).Pairwise (· < ·) := by
  rw [candidates]
  split
  · exact List.Pairwise.nil
  · rename_i shortest hshortest
    exact shortest.keys.ascending.filter _

/-! ## One candidate -/

variable {store : Positions} {terms : List UInt32}

/-- The positions that the scan over a document sees. -/
lemma rows_eq_positionsIn (hrows : (distinct terms).map store.get? = rows.map some)
    (doc : UInt32) :
    rows.map (fun row => (row.get? doc).getD []) = positionsIn store terms doc := by
  have hmap : ∀ found : List (Option (IdMap (List UInt32))), found = rows.map some →
      rows.map (fun row => (row.get? doc).getD [])
        = found.map fun row? => (row?.bind (·.get? doc)).getD [] := by
    rintro _ rfl
    rw [List.map_map]
    rfl
  rw [hmap _ hrows, List.map_map]
  rfl

/-- **Every row has an entry for a candidate**, so the scan sees the positions of all terms. -/
lemma entries_eq_positionsIn (hrows : (distinct terms).map store.get? = rows.map some)
    {doc : UInt32} (hdoc : doc ∈ candidates rows) :
    rows.mapM (entryOf · doc) = .ok (positionsIn store terms doc) := by
  rw [← rows_eq_positionsIn hrows]
  refine mapM_eq_ok_map fun row hrow => ?_
  obtain ⟨positions, hheld⟩ := Option.isSome_iff_exists.mp ((mem_candidates.mp hdoc).2 row hrow)
  rw [entryOf, hheld]
  rfl

/-- Every term that has a position somewhere has a row. -/
lemma HoldsEach.exists_rows {doc : UInt32} (h : HoldsEach store terms doc) :
    ∃ rows, (distinct terms).mapM store.get? = some rows := by
  apply exists_mapM_eq_some
  intro term hterm hnone
  obtain ⟨positions, hpositions, -⟩ := h term (mem_distinct.mp hterm)
  rw [Positions.positions?, hnone] at hpositions
  cases hpositions

/-- A document in which every term has a position is a candidate. -/
lemma HoldsEach.mem_candidates (hrows : (distinct terms).map store.get? = rows.map some)
    (hterms : terms ≠ []) {doc : UInt32} (h : HoldsEach store terms doc) :
    doc ∈ candidates rows := by
  rw [Rank.mem_candidates]
  constructor
  · rintro rfl
    obtain ⟨term, hterm⟩ := List.exists_mem_of_ne_nil terms hterms
    have hempty : distinct terms = [] := List.map_eq_nil_iff.mp hrows
    have hmem := mem_distinct.mpr hterm
    rw [hempty] at hmem
    cases hmem
  · intro row hrow
    have hmem : some row ∈ (distinct terms).map store.get? := by
      rw [hrows]
      exact List.mem_map_of_mem hrow
    obtain ⟨term, hterm, hget⟩ := List.mem_map.mp hmem
    obtain ⟨positions, hpositions, -⟩ := h term (mem_distinct.mp hterm)
    rw [Positions.positions?, hget, Option.bind_some] at hpositions
    rw [hpositions]
    rfl

/-- The scan over a document in which every term has a position finds the best window. -/
lemma exists_window (hpositive : ∀ {term doc positions},
      store.positions? term doc = some positions → ∀ p ∈ positions, 1 ≤ p.toNat)
    (hterms : terms ≠ []) {doc : UInt32} (hholds : HoldsEach store terms doc) :
    ∃ window, coveringWindow? (positionsIn store terms doc) = .ok (some window) ∧
      window.Best (Covers (positionsIn store terms doc)) := by
  have hnonempty : positionsIn store terms doc ≠ [] := by
    intro hnil
    obtain ⟨term, hterm⟩ := List.exists_mem_of_ne_nil terms hterms
    have hmem := mem_distinct.mpr hterm
    rw [List.map_eq_nil_iff.mp hnil] at hmem
    cases hmem
  have hlists : ∀ own ∈ positionsIn store terms doc, own ≠ [] ∧ ∀ p ∈ own, 1 ≤ p.toNat := by
    intro own hmem
    obtain ⟨term, hterm, rfl⟩ := List.mem_map.mp hmem
    obtain ⟨positions, hpositions, hne⟩ := hholds term (mem_distinct.mp hterm)
    rw [hpositions]
    exact ⟨hne, hpositive hpositions⟩
  exact coveringWindow?_best hnonempty (fun own hmem => (hlists own hmem).1)
    fun own hmem => (hlists own hmem).2

/-- A document in which every term has a position can be scored soundly. -/
lemma exists_sound (hpositive : ∀ {term doc positions},
      store.positions? term doc = some positions → ∀ p ∈ positions, 1 ≤ p.toNat)
    (hterms : terms ≠ []) {doc : UInt32} (hholds : HoldsEach store terms doc) :
    ∃ scored : Scored, scored.doc = doc ∧ scored.Sound store terms := by
  obtain ⟨window, -, hbest⟩ := exists_window hpositive hterms hholds
  exact ⟨⟨doc, window, window.score⟩, rfl, hholds, hbest, rfl⟩

/-- A candidate is scored unless a term has no position in it, and then soundly. -/
lemma scored?_spec (hpositive : ∀ {term doc positions},
      store.positions? term doc = some positions → ∀ p ∈ positions, 1 ≤ p.toNat)
    (hrows : (distinct terms).map store.get? = rows.map some) (hterms : terms ≠ [])
    {doc : UInt32} (hdoc : doc ∈ candidates rows) :
    ∃ found?, scored? rows doc = .ok found? ∧
      ∀ scored, found? = some scored ↔ scored.doc = doc ∧ scored.Sound store terms := by
  rw [scored?, entries_eq_positionsIn hrows hdoc, ok_bind]
  by_cases hempty : [] ∈ positionsIn store terms doc
  · refine ⟨none, by rw [coveringWindow?_eq_none (Or.inr hempty)]; rfl, fun scored => ?_⟩
    refine ⟨nofun, ?_⟩
    rintro ⟨rfl, hsound⟩
    obtain ⟨term, hterm, hnil⟩ := List.mem_map.mp hempty
    obtain ⟨positions, hpositions, hne⟩ := hsound.holds term (mem_distinct.mp hterm)
    rw [hpositions] at hnil
    exact absurd hnil hne
  · have hholds : HoldsEach store terms doc := by
      intro term hterm
      have hmem : store.get? term ∈ rows.map some := by
        rw [← hrows]
        exact List.mem_map_of_mem (mem_distinct.mpr hterm)
      obtain ⟨row, hrow, hget⟩ := List.mem_map.mp hmem
      obtain ⟨positions, hheld⟩ :=
        Option.isSome_iff_exists.mp ((mem_candidates.mp hdoc).2 row hrow)
      have hpositions : store.positions? term doc = some positions := by
        rw [Positions.positions?, ← hget, Option.bind_some, hheld]
      refine ⟨positions, hpositions, fun hnil => hempty ?_⟩
      exact List.mem_map.mpr ⟨term, mem_distinct.mpr hterm, by rw [hpositions, hnil]; rfl⟩
    obtain ⟨window, hwindow, hbest⟩ := exists_window hpositive hterms hholds
    refine ⟨some ⟨doc, window, window.score⟩, by rw [hwindow]; rfl, fun scored => ?_⟩
    constructor
    · intro h
      obtain rfl := Option.some.inj h
      exact ⟨rfl, hholds, hbest, rfl⟩
    · rintro ⟨rfl, hsound⟩
      rw [hbest.eq hsound.best, ← hsound.score]

/-- All candidates can be scored.  What is found are the documents in which every term has a
position, by ascending ids. -/
lemma exists_scored (hpositive : ∀ {term doc positions},
      store.positions? term doc = some positions → ∀ p ∈ positions, 1 ≤ p.toNat)
    (hrows : (distinct terms).map store.get? = rows.map some) (hterms : terms ≠ []) :
    ∃ found, (candidates rows).mapM (scored? rows) = .ok found ∧
      (∀ scored, scored ∈ found.filterMap id ↔ scored.Sound store terms) ∧
      (found.filterMap id).Pairwise (·.doc < ·.doc) := by
  have hspec : ∀ doc ∈ candidates rows, ∀ scored : Scored,
      scored? rows doc = .ok (some scored) ↔ scored.doc = doc ∧ scored.Sound store terms := by
    intro doc hdoc scored
    obtain ⟨found?, hfound, hspec⟩ := scored?_spec hpositive hrows hterms hdoc
    rw [hfound, Except.ok.injEq, hspec]
  cases hfound : (candidates rows).mapM (scored? rows) with
  | error fault =>
    obtain ⟨doc, hdoc, hfault⟩ := exists_of_mapM_eq_error hfound
    obtain ⟨found?, hscored, -⟩ := scored?_spec hpositive hrows hterms hdoc
    rw [hscored] at hfault
    cases hfault
  | ok found =>
    have hmap := mapM_eq_ok.mp hfound
    refine ⟨found, rfl, fun scored => ?_, ?_⟩
    · have hmem : scored ∈ found.filterMap id ↔
          ∃ doc ∈ candidates rows, scored? rows doc = .ok (some scored) := by
        rw [← List.mem_map, hmap]
        simp
      rw [hmem]
      constructor
      · rintro ⟨doc, hdoc, hscored⟩
        exact ((hspec doc hdoc scored).mp hscored).2
      · intro hsound
        have hdoc := hsound.holds.mem_candidates hrows hterms
        exact ⟨scored.doc, hdoc, (hspec _ hdoc scored).mpr ⟨rfl, hsound⟩⟩
    · have hascending : ((candidates rows).map (scored? rows)).Pairwise fun first? second? =>
          ∀ a b, first? = .ok (some a) → second? = .ok (some b) → a.doc < b.doc := by
        rw [List.pairwise_map]
        refine List.Pairwise.imp_of_mem (fun {x y} hx hy hlt => ?_) ascending_candidates
        intro a b ha hb
        rw [((hspec x hx a).mp ha).1, ((hspec y hy b).mp hb).1]
        exact hlt
      rw [hmap, List.pairwise_map] at hascending
      rw [List.pairwise_filterMap]
      refine hascending.imp fun {x y} hxy a ha b hb => hxy a b ?_ ?_
      · exact congrArg Except.ok ha
      · exact congrArg Except.ok hb

/-! ## The ranking -/

/-- **The ranking.**  Each document in which every term has a position is listed once, with its best
window, and no other document; the list is in order. -/
theorem rank_spec (hpositive : ∀ {term doc positions},
      store.positions? term doc = some positions → ∀ p ∈ positions, 1 ≤ p.toNat)
    (hterms : terms ≠ []) :
    ∃ ranked, rank store terms = .ok ranked ∧
      (∀ scored, scored ∈ ranked ↔ scored.Sound store terms) ∧
      (ranked.map (·.doc)).Nodup ∧ ranked.Pairwise (·.le · = true) := by
  rw [rank]
  cases hmapM : (distinct terms).mapM store.get? with
  | none =>
    refine ⟨[], rfl, fun scored => ⟨nofun, fun h => ?_⟩, List.nodup_nil, List.Pairwise.nil⟩
    -- a term without a row has no position anywhere
    obtain ⟨rows, hrows⟩ := h.holds.exists_rows
    rw [hrows] at hmapM
    cases hmapM
  | some rows =>
    obtain ⟨found, hfound, hmem, hascending⟩ :=
      exists_scored hpositive (mapM_eq_some.mp hmapM) hterms
    have hperm := List.mergeSort_perm (found.filterMap id) Scored.le
    refine ⟨(found.filterMap id).mergeSort Scored.le, ?_, fun scored => ?_, ?_, ?_⟩
    · simp only [hfound, ok_bind]
      rfl
    · rw [hperm.mem_iff, hmem]
    · rw [(hperm.map _).nodup_iff]
      exact (List.pairwise_map.mpr hascending).imp UInt32.ne_of_lt
    · exact List.pairwise_mergeSort Scored.le_trans Scored.le_total _

end Retrieval.Rank

import Mathlib.Tactic.Common
import Retrieval.Proofs.Rank.Ranking

/-!
# Order does not count

The window that is found over lists of positions depends on which positions stand together in a
list, and on nothing else: neither the order of the lists counts, nor the order of the positions in
them, nor how often any of them is repeated.  This is because the best window is one at most, and
which intervals cover the lists is told without any order (`SamePositions.covers_iff`).
`window_scan_finds_first_shortest` says all of what is found.

A ranking inherits this.  Two lists of the same terms have the same candidates with the same
windows, and as no two documents stand at one place in the order of the ranking, there is only one
list of them that is in order (`ranking_lists_each_candidate_once`).
-/

namespace Retrieval.Rank

open Posting (Positions)

/-! ## Windows -/

/-- Whether every list of `a` has a list of `b` with the same positions in it. -/
def ListedIn (a b : List (List UInt32)) : Prop :=
  ∀ own ∈ a, ∃ other ∈ b, ∀ position, position ∈ own ↔ position ∈ other

/-- Whether the same positions stand together in two lists of positions, whatever their order and
however often they are repeated. -/
structure SamePositions (a b : List (List UInt32)) : Prop where
  forth : ListedIn a b
  back : ListedIn b a

variable {a b : List (List UInt32)}

lemma SamePositions.symm (h : SamePositions a b) : SamePositions b a :=
  ⟨h.back, h.forth⟩

lemma ListedIn.covers (h : ListedIn a b) {start size : Nat} (hcovers : Covers b start size) :
    Covers a start size := by
  intro own hown
  obtain ⟨other, hother, hsame⟩ := h own hown
  obtain ⟨position, hposition, hwithin⟩ := hcovers other hother
  exact ⟨position, (hsame position).mpr hposition, hwithin⟩

/-- The same intervals cover the same positions. -/
lemma SamePositions.covers_iff (h : SamePositions a b) (start size : Nat) :
    Covers a start size ↔ Covers b start size :=
  ⟨h.back.covers, h.forth.covers⟩

/-- Either both have a window or neither has. -/
lemma SamePositions.lacks (h : SamePositions a b) (hlacks : a = [] ∨ [] ∈ a) :
    b = [] ∨ [] ∈ b := by
  rcases hlacks with rfl | hempty
  · refine Or.inl (List.eq_nil_iff_forall_not_mem.mpr fun own hown => ?_)
    obtain ⟨other, hother, -⟩ := h.back own hown
    cases hother
  · obtain ⟨other, hother, hsame⟩ := h.forth [] hempty
    have hnone : other = [] :=
      List.eq_nil_iff_forall_not_mem.mpr fun position hposition => by
        cases (hsame position).mpr hposition
    exact Or.inr (hnone ▸ hother)

/-- Positions that are counted from 1 still are. -/
lemma ListedIn.positive (h : ListedIn a b)
    (hpositive : ∀ own ∈ b, ∀ position ∈ own, 1 ≤ position.toNat) :
    ∀ own ∈ a, ∀ position ∈ own, 1 ≤ position.toNat := by
  intro own hown position hposition
  obtain ⟨other, hother, hsame⟩ := h own hown
  exact hpositive other hother position ((hsame position).mp hposition)

/-- A window over some positions is not empty. -/
lemma Window.Best.size_pos {window : Window} (h : window.Best (Covers a)) (ha : a ≠ []) :
    1 ≤ window.size.toNat := by
  obtain ⟨own, hown⟩ := List.exists_mem_of_ne_nil a ha
  obtain ⟨position, -, hstart, hend⟩ := h.sound own hown
  omega

/-- Where no list is missing there is a best window. -/
lemma exists_best_of_not_lacks (hlacks : ¬ (a = [] ∨ [] ∈ a))
    (hpositive : ∀ own ∈ a, ∀ position ∈ own, 1 ≤ position.toNat) :
    ∃ window, coveringWindow? a = .ok (some window) ∧ window.Best (Covers a) := by
  obtain ⟨hne, hown⟩ := not_or.mp hlacks
  exact coveringWindow?_best hne (fun own hmem hnil => hown (hnil ▸ hmem)) hpositive

/-- The same positions have the same window. -/
lemma coveringWindow?_congr (h : SamePositions a b)
    (hpositive : ∀ own ∈ a, ∀ position ∈ own, 1 ≤ position.toNat) :
    coveringWindow? a = coveringWindow? b := by
  by_cases hlacks : a = [] ∨ [] ∈ a
  · rw [coveringWindow?_eq_none hlacks, coveringWindow?_eq_none (h.lacks hlacks)]
  · obtain ⟨window, hwindow, hbest⟩ := exists_best_of_not_lacks hlacks hpositive
    obtain ⟨window', hwindow', hbest'⟩ := exists_best_of_not_lacks
      (fun hlacks' => hlacks (h.symm.lacks hlacks')) (h.back.positive hpositive)
    rw [hwindow, hwindow', hbest.eq ((Window.Best.congr h.covers_iff).mpr hbest')]

/-- **The window scan finds the first of the shortest covers.**  Over lists of positions that are
counted from 1 it never stops.  It finds nothing exactly if there is no list or an empty one, and
else a window of at least one position that is a cover, such that no cover is shorter and none of
its size starts earlier.  The same is found if the lists or the positions in them are put into
another order or repeated. -/
theorem window_scan_finds_first_shortest {positions : List (List UInt32)}
    (hpositive : ∀ own ∈ positions, ∀ position ∈ own, 1 ≤ position.toNat) :
    ∃ found?, coveringWindow? positions = .ok found? ∧
      (found? = none ↔ positions = [] ∨ [] ∈ positions) ∧
      (∀ window, found? = some window →
        1 ≤ window.size.toNat ∧ window.Best (Covers positions)) ∧
      ∀ reordered, SamePositions positions reordered →
        coveringWindow? reordered = .ok found? := by
  have hreordered : ∀ {found?}, coveringWindow? positions = .ok found? →
      ∀ reordered, SamePositions positions reordered →
        coveringWindow? reordered = .ok found? := fun hfound reordered hsame =>
    (coveringWindow?_congr hsame hpositive).symm.trans hfound
  by_cases hlacks : positions = [] ∨ [] ∈ positions
  · have hnone := coveringWindow?_eq_none hlacks
    exact ⟨none, hnone, iff_of_true rfl hlacks, nofun, hreordered hnone⟩
  · obtain ⟨window, hwindow, hbest⟩ := exists_best_of_not_lacks hlacks hpositive
    refine ⟨some window, hwindow, iff_of_false (Option.some_ne_none window) hlacks, ?_,
      hreordered hwindow⟩
    rintro _ ⟨⟩
    exact ⟨hbest.size_pos (not_or.mp hlacks).1, hbest⟩

/-- Three terms stand close together twice, and the shorter of the two stretches is found although
it comes last. -/
theorem window_scan_finds_later_stretch :
    let positions : List (List UInt32) := [[3, 1, 10, 47, 45], [49, 7, 46, 7], [4, 48, 44]]
    (∀ own ∈ positions, ∀ position ∈ own, 1 ≤ position.toNat) ∧
      ∃ found?, coveringWindow? positions = .ok found? ∧
        (found? = none ↔ positions = [] ∨ [] ∈ positions) ∧
        (∀ window, found? = some window →
          1 ≤ window.size.toNat ∧ window.Best (Covers positions)) ∧
        ∀ reordered, SamePositions positions reordered →
          coveringWindow? reordered = .ok found? := by
  intro positions
  have hall : positions.all (·.all (1 ≤ ·.toNat)) = true := by decide
  have hpositive : ∀ own ∈ positions, ∀ position ∈ own, 1 ≤ position.toNat := by
    intro own hown position hposition
    exact of_decide_eq_true (List.all_eq_true.mp (List.all_eq_true.mp hall own hown) _ hposition)
  exact ⟨hpositive, window_scan_finds_first_shortest hpositive⟩

example : coveringWindow? [[3, 1, 10, 47, 45], [49, 7, 46, 7], [4, 48, 44]]
    = .ok (some ⟨44, 3⟩) := by
  cbv

/-! ## Rankings -/

variable {store : Positions} {terms terms' : List UInt32}

/-- Whether a ranked document stands before another: its score is greater, or it has the same score
and the lesser id. -/
def Scored.Before (a b : Scored) : Prop :=
  b.score < a.score ∨ (a.score = b.score ∧ a.doc < b.doc)

/-- No two documents stand before each other. -/
lemma Scored.Before.asymm {a b : Scored} (hab : a.Before b) (hba : b.Before a) : False := by
  rcases hab with hless | ⟨hsame, hless⟩
  · rcases hba with hless' | ⟨hsame', -⟩
    · exact UInt64.lt_irrefl _ (UInt64.lt_trans hless hless')
    · rw [hsame'] at hless
      exact UInt64.lt_irrefl _ hless
  · rcases hba with hless' | ⟨-, hless'⟩
    · rw [hsame] at hless'
      exact UInt64.lt_irrefl _ hless'
    · exact UInt32.lt_irrefl _ (UInt32.lt_trans hless hless')

/-- Documents in order that are listed once each stand before each other. -/
lemma pairwise_before {ranked : List Scored} (hnodup : (ranked.map (·.doc)).Nodup)
    (hordered : ranked.Pairwise (·.le · = true)) : ranked.Pairwise Scored.Before := by
  refine (hordered.and (List.pairwise_map.mp hnodup)).imp fun {a b} ⟨hle, hne⟩ => ?_
  exact (Scored.le_iff.mp hle).imp_right fun ⟨hsame, hdoc⟩ =>
    ⟨hsame, UInt32.lt_of_le_of_ne hdoc hne⟩

/-- The same terms have the same positions in a document. -/
lemma samePositions_positionsIn (h : ∀ term, term ∈ terms' ↔ term ∈ terms) (doc : UInt32) :
    SamePositions (positionsIn store terms' doc) (positionsIn store terms doc) := by
  have hlisted : ∀ {terms terms' : List UInt32}, (∀ term ∈ terms, term ∈ terms') →
      ListedIn (positionsIn store terms doc) (positionsIn store terms' doc) := by
    intro terms terms' hsubset own hown
    obtain ⟨term, hterm, rfl⟩ := List.mem_map.mp hown
    have hterm' := mem_distinct.mpr (hsubset term (mem_distinct.mp hterm))
    exact ⟨_, List.mem_map_of_mem hterm', fun _ => Iff.rfl⟩
  exact ⟨hlisted fun term => (h term).mp, hlisted fun term => (h term).mpr⟩

/-- What is said of a document depends on which terms are given. -/
lemma Scored.Sound.congr (h : ∀ term, term ∈ terms' ↔ term ∈ terms) {scored : Scored} :
    scored.Sound store terms' ↔ scored.Sound store terms := by
  have hsame : SamePositions (positionsIn store terms' scored.doc)
      (positionsIn store terms scored.doc) := samePositions_positionsIn h scored.doc
  have hbest : scored.window.Best (Covers (positionsIn store terms' scored.doc)) ↔
      scored.window.Best (Covers (positionsIn store terms scored.doc)) :=
    Window.Best.congr hsame.covers_iff
  constructor
  · intro hsound
    exact ⟨fun term hterm => hsound.holds term ((h term).mpr hterm), hbest.mp hsound.best,
      hsound.score⟩
  · intro hsound
    exact ⟨fun term hterm => hsound.holds term ((h term).mp hterm), hbest.mpr hsound.best,
      hsound.score⟩

/-- Nothing is ranked without terms. -/
lemma rank_nil (store : Positions) : rank store [] = .ok [] := by
  have hnothing : ([] : List Scored).mergeSort Scored.le = [] := List.mergeSort_nil
  exact congrArg Except.ok hnothing

/-- Two lists of the same terms are ranked alike. -/
lemma rank_congr (hpositive : ∀ {term doc positions},
      store.positions? term doc = some positions → ∀ p ∈ positions, 1 ≤ p.toNat)
    (h : ∀ term, term ∈ terms' ↔ term ∈ terms) : rank store terms' = rank store terms := by
  by_cases hterms : terms = []
  · subst hterms
    have hterms' : terms' = [] := List.eq_nil_iff_forall_not_mem.mpr fun term hterm => by
      cases (h term).mp hterm
    rw [hterms']
  · have hterms' : terms' ≠ [] := by
      obtain ⟨term, hterm⟩ := List.exists_mem_of_ne_nil terms hterms
      exact List.ne_nil_of_mem ((h term).mpr hterm)
    obtain ⟨ranked, hranked, hmem, hnodup, hordered⟩ := rank_spec hpositive hterms
    obtain ⟨ranked', hranked', hmem', hnodup', hordered'⟩ := rank_spec hpositive hterms'
    rw [hranked, hranked']
    -- both list the same documents, and there is one order for them
    have hperm : ranked'.Perm ranked := by
      refine (List.perm_ext_iff_of_nodup hnodup'.of_map hnodup.of_map).mpr fun scored => ?_
      rw [hmem', hmem, Scored.Sound.congr h]
    congr 1
    exact hperm.eq_of_pairwise (fun _ _ _ _ hab hba => (hab.asymm hba).elim)
      (pairwise_before hnodup' hordered') (pairwise_before hnodup hordered)

/-- **The ranking lists each candidate once.**  Over positional postings whose positions are counted
from 1 it never stops, and lists exactly the documents in which every given term has a position:
none if no term is given or a given one is unknown.  Each is listed once, with the window over its
positions and the score of this window, the greater scores first and of equal scores the lesser id.
Terms in another order, or given several times, are ranked alike. -/
theorem ranking_lists_each_candidate_once (hpositive : ∀ {term doc positions},
      store.positions? term doc = some positions → ∀ p ∈ positions, 1 ≤ p.toNat)
    (terms : List UInt32) :
    ∃ ranked, rank store terms = .ok ranked ∧
      (∀ doc, doc ∈ ranked.map (·.doc) ↔ terms ≠ [] ∧ HoldsEach store terms doc) ∧
      (terms = [] ∨ (∃ term ∈ terms, store.get? term = none) → ranked = []) ∧
      (ranked.map (·.doc)).Nodup ∧
      (∀ scored ∈ ranked,
        coveringWindow? (positionsIn store terms scored.doc) = .ok (some scored.window) ∧
          scored.score = scored.window.score) ∧
      ranked.Pairwise Scored.Before ∧
      ∀ terms', (∀ term, term ∈ terms' ↔ term ∈ terms) → rank store terms' = .ok ranked := by
  by_cases hterms : terms = []
  · subst hterms
    have hnothing := rank_nil store
    exact ⟨[], hnothing, by simp, fun _ => rfl, List.nodup_nil, by simp, List.Pairwise.nil,
      fun terms' h => (rank_congr hpositive h).trans hnothing⟩
  · obtain ⟨ranked, hranked, hmem, hnodup, hordered⟩ := rank_spec hpositive hterms
    have hdocs : ∀ doc, doc ∈ ranked.map (·.doc) ↔ HoldsEach store terms doc := by
      intro doc
      rw [List.mem_map]
      constructor
      · rintro ⟨scored, hscored, rfl⟩
        exact ((hmem scored).mp hscored).holds
      · intro hholds
        obtain ⟨scored, hdoc, hsound⟩ := exists_sound hpositive hterms hholds
        exact ⟨scored, (hmem scored).mpr hsound, hdoc⟩
    refine ⟨ranked, hranked, fun doc => ?_, ?_, hnodup, fun scored hscored => ?_,
      pairwise_before hnodup hordered, fun terms' h => (rank_congr hpositive h).trans hranked⟩
    · rw [hdocs]
      exact (and_iff_right hterms).symm
    · rintro (hnil | ⟨term, hterm, hunknown⟩)
      · exact absurd hnil hterms
      · refine List.eq_nil_iff_forall_not_mem.mpr fun scored hscored => ?_
        obtain ⟨positions, hpositions, -⟩ := ((hmem scored).mp hscored).holds term hterm
        rw [Positions.positions?, hunknown] at hpositions
        cases hpositions
    · have hsound := (hmem scored).mp hscored
      obtain ⟨window, hwindow, hbest⟩ := exists_window hpositive hterms hsound.holds
      rw [hwindow, hbest.eq hsound.best]
      exact ⟨rfl, hsound.score⟩

/-- Two documents of one score, one with a greater score, and two that lack a position of a term. -/
def fiveDocuments : Positions :=
  [(1, 12, [9, 8]), (1, 10, [2, 1]), (2, 10, [30]), (1, 11, [8, 9]), (2, 11, [8]), (2, 12, [8]),
    (1, 13, [1]), (2, 14, [1]), (1, 14, [])].foldl
    (fun store (term, doc, positions) => store.record term doc positions) .empty

theorem ranking_lists_three_of_five :
    let terms : List UInt32 := [2, 1, 2]
    (∀ {term doc positions}, fiveDocuments.positions? term doc = some positions →
      ∀ p ∈ positions, 1 ≤ p.toNat) ∧
    ∃ ranked, rank fiveDocuments terms = .ok ranked ∧
      (∀ doc, doc ∈ ranked.map (·.doc) ↔ terms ≠ [] ∧ HoldsEach fiveDocuments terms doc) ∧
      (terms = [] ∨ (∃ term ∈ terms, fiveDocuments.get? term = none) → ranked = []) ∧
      (ranked.map (·.doc)).Nodup ∧
      (∀ scored ∈ ranked,
        coveringWindow? (positionsIn fiveDocuments terms scored.doc) = .ok (some scored.window) ∧
          scored.score = scored.window.score) ∧
      ranked.Pairwise Scored.Before ∧
      ∀ terms', (∀ term, term ∈ terms' ↔ term ∈ terms) →
        rank fiveDocuments terms' = .ok ranked := by
  intro terms
  have hpositive : ∀ {term doc positions}, fiveDocuments.positions? term doc = some positions →
      ∀ p ∈ positions, 1 ≤ p.toNat := by
    intro term doc positions hpositions
    obtain ⟨row, hrow, hheld⟩ := Option.bind_eq_some_iff.mp hpositions
    have hall : fiveDocuments.entries.all
        (·.2.entries.all (·.2.all (1 ≤ ·.toNat))) = true := by
      decide +kernel
    have hfound := List.all_eq_true.mp (List.all_eq_true.mp hall _ (IdMap.get?_eq_some_iff.mp hrow))
      _ (IdMap.get?_eq_some_iff.mp hheld)
    exact fun p hp => of_decide_eq_true (List.all_eq_true.mp hfound p hp)
  exact ⟨hpositive, ranking_lists_each_candidate_once hpositive terms⟩

end Retrieval.Rank

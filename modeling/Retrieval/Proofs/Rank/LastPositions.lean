import Mathlib.Tactic.Common
import Retrieval.Proofs.Fault
import Retrieval.Rank.Window

/-!
# The scan by last positions

The windows of the scan can be told without its pointers.  If for each term the last position
visited is kept, then the shortest window that ends at the current occurrence begins at the least of
these positions (`coverStart?`).  `visit` compares these windows and keeps no more than that.

`Latest` says what is kept of the occurrences visited.
-/

namespace Retrieval.Rank

/-- The least of the last positions, once every term has one. -/
def coverStart? (last : List (Option UInt32)) : Option UInt32 :=
  (last.mapM id).bind List.min?

/-- Visits occurrences in ascending order, with the last position of each term and the best window
so far. -/
def visit (last : List (Option UInt32)) (best? : Option Window) :
    List Occurrence → Except Fault (Option Window)
  | [] => .ok best?
  | occurrence :: rest => do
    let last := last.set occurrence.term (some occurrence.position)
    match coverStart? last with
    | none => visit last best? rest
    | some start =>
      let size ← span start occurrence.position
      visit last (some (shorter best? ⟨start, size⟩)) rest

/-! ## The least of the last positions -/

lemma coverStart?_eq_some {last : List (Option UInt32)} {start : UInt32} :
    coverStart? last = some start ↔
      ∃ positions : List UInt32, last = positions.map some ∧ start ∈ positions ∧
        ∀ position ∈ positions, start ≤ position := by
  rw [coverStart?, Option.bind_eq_some_iff]
  refine exists_congr fun positions => ?_
  rw [mapM_eq_some, List.map_id, List.min?_eq_some_iff]

lemma none_mem_of_coverStart? {last : List (Option UInt32)} (hlast : last ≠ [])
    (h : coverStart? last = none) : none ∈ last := by
  cases hpositions : last.mapM id with
  | none =>
    obtain ⟨held, hheld, hnone⟩ := exists_of_mapM_eq_none hpositions
    rw [id] at hnone
    rwa [hnone] at hheld
  | some positions =>
    have hmap := mapM_eq_some.mp hpositions
    rw [coverStart?, hpositions, Option.bind_some, List.min?_eq_none_iff] at h
    rw [h, List.map_id] at hmap
    exact absurd hmap hlast

lemma coverStart?_eq_none {last : List (Option UInt32)}
    (h : last.countP Option.isSome ≠ last.length) : coverStart? last = none := by
  cases hstart : coverStart? last with
  | none => rfl
  | some start =>
    obtain ⟨positions, hpositions, -⟩ := coverStart?_eq_some.mp hstart
    refine absurd (List.countP_eq_length.mpr fun held hheld => ?_) h
    rw [hpositions] at hheld
    obtain ⟨position, -, rfl⟩ := List.mem_map.mp hheld
    rfl

/-! ## What was visited -/

/-- In ascending order, what was visited before an occurrence has no greater position. -/
lemma position_le_of_ascending {visited rest : List Occurrence} {o : Occurrence}
    (h : ((visited ++ [o]) ++ rest).Pairwise (·.position ≤ ·.position)) :
    ∀ other ∈ visited, other.position ≤ o.position := by
  intro other hother
  have hpair := (List.pairwise_append.mp (List.pairwise_append.mp h).1).2.2
  exact hpair other hother o (List.mem_singleton.mpr rfl)

/-- The occurrence that is visited last has the greatest position. -/
lemma position_le_of_mem_append {visited : List Occurrence} {o : Occurrence}
    (ho : ∀ other ∈ visited, other.position ≤ o.position) :
    ∀ other ∈ visited ++ [o], other.position ≤ o.position := by
  intro other hother
  rcases List.mem_append.mp hother with hearlier | hlast
  · exact ho other hearlier
  · rw [List.mem_singleton.mp hlast]
    exact UInt32.le_refl _

/-- The last position of each term is kept. -/
structure Latest (visited : List Occurrence) (last : List (Option UInt32)) : Prop where
  mem : ∀ {term position}, last[term]? = some (some position) → ⟨position, term⟩ ∈ visited
  greatest : ∀ {term position}, last[term]? = some (some position) →
    ∀ o ∈ visited, o.term = term → o.position ≤ position
  absent : ∀ {term}, last[term]? = some none → ∀ o ∈ visited, o.term ≠ term

lemma latest_nil (count : Nat) : Latest [] (List.replicate count none) where
  mem h := by simp [List.getElem?_replicate] at h
  greatest _ _ ho := by simp at ho
  absent _ _ ho := by simp at ho

lemma Latest.visit {visited : List Occurrence} {last : List (Option UInt32)} {o : Occurrence}
    (h : Latest visited last) (ho : ∀ other ∈ visited, other.position ≤ o.position) :
    Latest (visited ++ [o]) (last.set o.term (some o.position)) := by
  have hset : ∀ {term} {held : Option UInt32},
      (last.set o.term (some o.position))[term]? = some held →
      (o.term = term ∧ held = some o.position) ∨ (o.term ≠ term ∧ last[term]? = some held) := by
    intro term held hheld
    rw [List.getElem?_set] at hheld
    split at hheld
    · rename_i hterm
      split at hheld
      · exact Or.inl ⟨hterm, (Option.some.inj hheld).symm⟩
      · cases hheld
    · rename_i hterm
      exact Or.inr ⟨hterm, hheld⟩
  refine ⟨fun hheld => ?_, fun hheld other hother hterm => ?_, fun hheld other hother => ?_⟩
  · rcases hset hheld with ⟨rfl, hposition⟩ | ⟨-, hold⟩
    · rw [Option.some.inj hposition]
      simp
    · exact List.mem_append_left _ (h.mem hold)
  · rcases hset hheld with ⟨-, hposition⟩ | ⟨hne, hold⟩
    · rw [Option.some.inj hposition]
      exact position_le_of_mem_append ho other hother
    · rcases List.mem_append.mp hother with hearlier | hlast
      · exact h.greatest hold other hearlier hterm
      · rw [List.mem_singleton.mp hlast] at hterm
        exact absurd hterm hne
  · rcases hset hheld with ⟨-, hposition⟩ | ⟨hne, hold⟩
    · cases hposition
    · rcases List.mem_append.mp hother with hearlier | hlast
      · exact h.absent hold other hearlier
      · rw [List.mem_singleton.mp hlast]
        exact hne

/-! ## The merged occurrences -/

lemma mem_merged {positions : List (List UInt32)} {o : Occurrence} :
    o ∈ merged positions ↔ ∃ own, positions[o.term]? = some own ∧ o.position ∈ own := by
  rw [merged, List.mem_mergeSort, List.mem_flatMap]
  constructor
  · rintro ⟨⟨own, term⟩, hown, ho⟩
    obtain ⟨position, hposition, rfl⟩ := List.mem_map.mp ho
    exact ⟨own, List.mem_zipIdx_iff_getElem?.mp hown, hposition⟩
  · rintro ⟨own, hown, hposition⟩
    exact ⟨(own, o.term), List.mem_zipIdx_iff_getElem?.mpr hown, List.mem_map_of_mem hposition⟩

lemma Occurrence.le_iff_toNat {a b : Occurrence} :
    a.le b = true ↔ a.position.toNat < b.position.toNat ∨
      (a.position.toNat = b.position.toNat ∧ a.term ≤ b.term) := by
  simp only [Occurrence.le, Bool.or_eq_true, decide_eq_true_eq, Bool.and_eq_true, beq_iff_eq,
    UInt32.lt_iff_toNat_lt, UInt32.toNat_inj]

/-- The occurrences are visited in their order. -/
lemma pairwise_merged (positions : List (List UInt32)) :
    (merged positions).Pairwise (·.le · = true) := by
  refine List.pairwise_mergeSort (fun a b c hab hbc => ?_) (fun a b => ?_) _
  · rw [Occurrence.le_iff_toNat] at hab hbc ⊢
    omega
  · rw [Bool.or_eq_true, Occurrence.le_iff_toNat, Occurrence.le_iff_toNat]
    omega

lemma ascending_merged (positions : List (List UInt32)) :
    (merged positions).Pairwise (·.position ≤ ·.position) := by
  refine (pairwise_merged positions).imp fun {a b} hab => ?_
  rw [UInt32.le_iff_toNat_le]
  have := Occurrence.le_iff_toNat.mp hab
  omega

end Retrieval.Rank

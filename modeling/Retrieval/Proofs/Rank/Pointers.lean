import Mathlib.Tactic.Common
import Retrieval.Proofs.Rank.LastPositions

/-!
# The two pointers

The scan never leaves the occurrences and never counts below zero, and the windows that it compares
are those of the scan by last positions (`coveringWindow?_eq_visit`).

Its invariant speaks about the terms that occur between the pointers.  `Around` says that they are
counted, and that none of the visited terms was lost when the start moved.  So there is always an
occurrence at the start, and its term is counted at least once; the start moves on while it is
counted more than once, and stops at the last occurrence of a term (`exists_advance`).  Every term
occurs again from there on, so the position at the start is the least of the last positions
(`coverStart?_of_around`).
-/

namespace Retrieval.Rank

/-- The terms of the visited occurrences from the start on. -/
def between (visited : List Occurrence) (start : Nat) : List Nat :=
  (visited.drop start).map (·.term)

lemma between_eq_cons {visited : List Occurrence} {start : Nat} {first : Occurrence}
    (h : visited[start]? = some first) :
    between visited start = first.term :: between visited (start + 1) := by
  obtain ⟨hbelow, rfl⟩ := List.getElem?_eq_some_iff.mp h
  rw [between, List.drop_eq_getElem_cons hbelow, List.map_cons]
  rfl

/-- The terms between the pointers are counted, and every visited term is among them. -/
structure Around (visited : List Occurrence) (counts : Array Nat) (start : Nat) : Prop where
  inside : start ≤ visited.length
  counted : ∀ term < counts.size, counts[term]? = some ((between visited start).count term)
  kept : ∀ o ∈ visited, o.term ∈ between visited start

/-- Once an occurrence was visited there is one at the start. -/
lemma Around.exists_first {visited : List Occurrence} {counts : Array Nat} {start : Nat}
    (h : Around visited counts start) (hvisited : visited ≠ []) :
    ∃ first, visited[start]? = some first := by
  obtain ⟨o, ho⟩ := List.exists_mem_of_ne_nil visited hvisited
  have hkept := h.kept o ho
  cases hstart : visited[start]? with
  | some first => exact ⟨first, rfl⟩
  | none =>
    rw [between, List.drop_eq_nil_of_le (List.getElem?_eq_none_iff.mp hstart)] at hkept
    cases hkept

/-! ## The start -/

/-- The start may move over an occurrence whose term occurs again. -/
lemma Around.advance {visited : List Occurrence} {counts : Array Nat} {start count : Nat}
    {first : Occurrence} (h : Around visited counts start) (hfirst : visited[start]? = some first)
    (hcount : (between visited start).count first.term = count) (hagain : 1 < count) :
    Around visited (counts.setIfInBounds first.term (count - 1)) (start + 1) := by
  obtain ⟨hbelow, -⟩ := List.getElem?_eq_some_iff.mp hfirst
  rw [between_eq_cons hfirst, List.count_cons_self] at hcount
  refine ⟨hbelow, fun term hterm => ?_, fun o ho => ?_⟩
  · rw [Array.size_setIfInBounds] at hterm
    rw [Array.getElem?_setIfInBounds]
    split
    · rename_i hsame
      subst hsame
      rw [if_pos hterm, ← hcount, Nat.add_sub_cancel]
    · rename_i hother
      rw [h.counted term hterm, between_eq_cons hfirst, List.count_cons_of_ne hother]
  · have hkept := h.kept o ho
    rw [between_eq_cons hfirst, List.mem_cons] at hkept
    rcases hkept with hsame | hlater
    · rw [hsame, ← List.count_pos_iff]
      omega
    · exact hlater

/-- **The start stops at the last occurrence of a term**, and leaves neither the occurrences nor the
counts. -/
lemma exists_advance (rest : List Occurrence) {visited : List Occurrence} {counts : Array Nat}
    {start : Nat} (hterms : ∀ o ∈ visited, o.term < counts.size) (hvisited : visited ≠ [])
    (h : Around visited counts start) :
    ∃ counts' start' first, advance (visited ++ rest).toArray counts start = .ok (counts', start') ∧
      counts'.size = counts.size ∧ Around visited counts' start' ∧
      visited[start']? = some first ∧ (between visited start').count first.term = 1 := by
  induction hleft : visited.length - start generalizing counts start with
  | zero =>
    obtain ⟨first, hfirst⟩ := h.exists_first hvisited
    obtain ⟨hbelow, -⟩ := List.getElem?_eq_some_iff.mp hfirst
    omega
  | succ left ih =>
    obtain ⟨first, hfirst⟩ := h.exists_first hvisited
    obtain ⟨hbelow, hat⟩ := List.getElem?_eq_some_iff.mp hfirst
    have hterm := hterms first (List.mem_of_getElem? hfirst)
    have hinside : start < (visited ++ rest).toArray.size := by
      rw [List.size_toArray, List.length_append]
      omega
    have hitem : (visited ++ rest).toArray[start] = first := by
      rw [List.getElem_toArray, List.getElem_append_left hbelow, hat]
    have hcount : itemAt counts first.term = .ok ((between visited start).count first.term) := by
      rw [itemAt, h.counted _ hterm]
    have hpositive : 0 < (between visited start).count first.term :=
      List.count_pos_iff.mpr (h.kept first (List.mem_of_getElem? hfirst))
    rw [Rank.advance, dif_pos hinside]
    simp only [hitem, hcount, ok_bind]
    by_cases hagain : 1 < (between visited start).count first.term
    · have hfewer : checkedSub ((between visited start).count first.term) 1
          = .ok ((between visited start).count first.term - 1) := if_pos (Nat.le_of_lt hagain)
      rw [if_pos hagain, hfewer, ok_bind]
      have hsize : (counts.setIfInBounds first.term
          ((between visited start).count first.term - 1)).size = counts.size :=
        Array.size_setIfInBounds
      rw [← hsize] at hterms ⊢
      exact ih hterms (h.advance hfirst rfl hagain) (by omega)
    · rw [if_neg hagain]
      exact ⟨counts, start, first, rfl, rfl, h, hfirst, by omega⟩

/-- In ascending order, no position behind the start is less than the one at the start, and only of
a term that comes again behind it is any greater. -/
lemma position_le_of_start {visited : List Occurrence} {start : Nat} {first : Occurrence}
    (hascending : visited.Pairwise (·.position ≤ ·.position)) (hfirst : visited[start]? = some first) :
    (∀ o ∈ visited.drop (start + 1), first.position ≤ o.position) ∧
      ∀ o ∈ visited, o.term ∉ between visited (start + 1) → o.position ≤ first.position := by
  obtain ⟨hbelow, hat⟩ := List.getElem?_eq_some_iff.mp hfirst
  have hsplit : visited = visited.take start ++ first :: visited.drop (start + 1) := by
    rw [← hat, List.getElem_cons_drop, List.take_append_drop]
  rw [hsplit, List.pairwise_append, List.pairwise_cons] at hascending
  obtain ⟨-, ⟨hafter, -⟩, hbefore⟩ := hascending
  refine ⟨hafter, fun o ho hgone => ?_⟩
  rw [hsplit, List.mem_append, List.mem_cons] at ho
  rcases ho with hearlier | rfl | hlater
  · exact hbefore o hearlier first List.mem_cons_self
  · exact UInt32.le_refl _
  · exact absurd (List.mem_map_of_mem hlater) hgone

/-- Every last position is at or behind the start. -/
lemma Around.position_le {visited : List Occurrence} {last : List (Option UInt32)}
    {counts : Array Nat} {start term : Nat} {first : Occurrence} {position : UInt32}
    (h : Around visited counts start) (hlatest : Latest visited last)
    (hascending : visited.Pairwise (·.position ≤ ·.position))
    (hfirst : visited[start]? = some first) (hheld : last[term]? = some (some position)) :
    first.position ≤ position := by
  have hkept := h.kept _ (hlatest.mem hheld)
  rw [between_eq_cons hfirst, List.mem_cons] at hkept
  rcases hkept with hsame | hlater
  · exact hlatest.greatest hheld first (List.mem_of_getElem? hfirst) hsame.symm
  · obtain ⟨o, ho, hsame⟩ := List.mem_map.mp hlater
    exact UInt32.le_trans ((position_le_of_start hascending hfirst).1 o ho)
      (hlatest.greatest hheld o (List.mem_of_mem_drop ho) hsame)

/-- A term that occurs once between the pointers, at the start, has its last position there. -/
lemma Latest.eq_position {visited : List Occurrence} {last : List (Option UInt32)} {start : Nat}
    {first : Occurrence} {position : UInt32} (h : Latest visited last)
    (hascending : visited.Pairwise (·.position ≤ ·.position))
    (hfirst : visited[start]? = some first)
    (honce : (between visited start).count first.term = 1)
    (hheld : last[first.term]? = some (some position)) : position = first.position := by
  rw [between_eq_cons hfirst, List.count_cons_self] at honce
  have hgone : first.term ∉ between visited (start + 1) := by
    rw [← List.count_eq_zero]
    omega
  exact UInt32.le_antisymm ((position_le_of_start hascending hfirst).2 _ (h.mem hheld) hgone)
    (h.greatest hheld first (List.mem_of_getElem? hfirst) rfl)

/-- **The position at the start is the least of the last positions**, once every term has one. -/
lemma coverStart?_of_around {visited : List Occurrence} {last : List (Option UInt32)}
    {counts : Array Nat} {start : Nat} {first : Occurrence} (hlatest : Latest visited last)
    (hascending : visited.Pairwise (·.position ≤ ·.position)) (h : Around visited counts start)
    (hfirst : visited[start]? = some first)
    (honce : (between visited start).count first.term = 1) (hterm : first.term < last.length)
    (hall : ∀ held ∈ last, held ≠ none) : coverStart? last = some first.position := by
  obtain ⟨positions, hpositions⟩ := exists_mapM_eq_some (f := id) hall
  rw [mapM_eq_some, List.map_id] at hpositions
  subst hpositions
  have hheld : ∀ {term : Nat} {position : UInt32}, positions[term]? = some position →
      (positions.map some)[term]? = some (some position) := by
    intro term position hposition
    rw [List.getElem?_map, hposition]
    rfl
  refine coverStart?_eq_some.mpr ⟨positions, rfl, ?_, fun position hposition => ?_⟩
  · rw [List.length_map] at hterm
    have hown := hheld (List.getElem?_eq_getElem hterm)
    rw [← hlatest.eq_position hascending hfirst honce hown]
    exact List.getElem_mem hterm
  · obtain ⟨term, hown⟩ := List.mem_iff_getElem?.mp hposition
    exact h.position_le hlatest hascending hfirst (hheld hown)

/-! ## The end -/

/-- A scan has come as far as the last positions: its pointers stand around what was visited, and
it counts the terms that have a last position. -/
structure Scan.Follows (visited : List Occurrence) (last : List (Option UInt32)) (scan : Scan) :
    Prop where
  size : scan.counts.size = last.length
  around : Around visited scan.counts scan.start
  covered : scan.covered = last.countP Option.isSome

lemma Scan.follows_nil (count : Nat) (best? : Option Window) :
    Scan.Follows [] (List.replicate count none) ⟨Array.replicate count 0, 0, 0, best?⟩ where
  size := by rw [Array.size_replicate, List.length_replicate]
  around := by
    refine ⟨Nat.le_refl 0, fun term hterm => ?_, fun o ho => by cases ho⟩
    rw [Array.size_replicate] at hterm
    rw [Array.getElem?_replicate, if_pos hterm]
    rfl
  covered := by simp [List.countP_replicate]

/-- The next occurrence is counted. -/
lemma Around.append {visited : List Occurrence} {counts : Array Nat} {start : Nat}
    (h : Around visited counts start) (next : Occurrence) :
    Around (visited ++ [next])
      (counts.setIfInBounds next.term ((between visited start).count next.term + 1)) start := by
  have hbetween : between (visited ++ [next]) start = between visited start ++ [next.term] := by
    rw [between, List.drop_append_of_le_length h.inside, List.map_append]
    rfl
  refine ⟨?_, fun term hterm => ?_, fun o ho => ?_⟩
  · rw [List.length_append]
    exact Nat.le_add_right_of_le h.inside
  · rw [Array.size_setIfInBounds] at hterm
    rw [Array.getElem?_setIfInBounds, hbetween, List.count_append]
    split
    · rename_i hsame
      subst hsame
      rw [if_pos hterm, List.count_singleton_self]
    · rename_i hother
      rw [h.counted term hterm, List.count_singleton, if_neg (by simpa using hother),
        Nat.add_zero]
  · rw [hbetween, List.mem_append, List.mem_singleton]
    rcases List.mem_append.mp ho with hearlier | hlast
    · exact Or.inl (h.kept o hearlier)
    · exact Or.inr (congrArg Occurrence.term (List.mem_singleton.mp hlast))

/-- One more term has a last position exactly if it does not occur between the pointers. -/
lemma Scan.Follows.countP_set {visited : List Occurrence} {last : List (Option UInt32)}
    {scan : Scan} {next : Occurrence} (h : scan.Follows visited last)
    (hlatest : Latest visited last) (hterm : next.term < last.length) :
    (if (between visited scan.start).count next.term + 1 = 1 then scan.covered + 1
        else scan.covered)
      = (last.set next.term (some next.position)).countP Option.isSome := by
  have hheld := List.getElem?_eq_getElem hterm
  rw [List.countP_set hterm, h.covered]
  cases hlast : last[next.term] with
  | none =>
    rw [hlast] at hheld
    have habsent : next.term ∉ between visited scan.start := by
      intro hmem
      obtain ⟨o, ho, hsame⟩ := List.mem_map.mp hmem
      exact hlatest.absent hheld o (List.mem_of_mem_drop ho) hsame
    rw [List.count_eq_zero.mpr habsent]
    simp
  | some position =>
    rw [hlast] at hheld
    have hpositive := List.count_pos_iff.mpr (h.around.kept _ (hlatest.mem hheld))
    have hcounted : 0 < last.countP Option.isSome :=
      List.countP_pos_iff.mpr ⟨some position, List.mem_of_getElem? hheld, rfl⟩
    dsimp only at hpositive
    rw [if_neg (by omega)]
    simp only [Option.isSome_some, if_true]
    omega

/-- The next occurrence is counted and the start follows it. -/
lemma Scan.Follows.exists_advance {visited : List Occurrence} {last : List (Option UInt32)}
    {scan : Scan} {next : Occurrence} (h : scan.Follows visited last)
    (hterms : ∀ o ∈ visited ++ [next], o.term < last.length) (rest : List Occurrence) :
    itemAt scan.counts next.term = .ok ((between visited scan.start).count next.term) ∧
      ∃ counts start first,
        advance (visited ++ [next] ++ rest).toArray (scan.counts.setIfInBounds next.term
            ((between visited scan.start).count next.term + 1)) scan.start = .ok (counts, start) ∧
          counts.size = last.length ∧ Around (visited ++ [next]) counts start ∧
          (visited ++ [next])[start]? = some first ∧
          (between (visited ++ [next]) start).count first.term = 1 := by
  have hnext : next ∈ visited ++ [next] := List.mem_concat_self
  have hsize : (scan.counts.setIfInBounds next.term
      ((between visited scan.start).count next.term + 1)).size = last.length := by
    rw [Array.size_setIfInBounds, h.size]
  constructor
  · rw [itemAt, h.around.counted _ (h.size ▸ hterms next hnext)]
  · rw [← hsize]
    exact Rank.exists_advance rest (by rwa [hsize]) (List.ne_nil_of_mem hnext) (h.around.append next)

/-- **One occurrence.**  The scan does not stop but over the size of a window, and comes as far as
the last positions; its window is the one from the least of them on. -/
lemma Scan.Follows.step {visited : List Occurrence} {last : List (Option UInt32)} {scan : Scan}
    {next : Occurrence} (h : scan.Follows visited last) (hlatest : Latest visited last)
    (hascending : (visited ++ [next]).Pairwise (·.position ≤ ·.position))
    (hterms : ∀ o ∈ visited ++ [next], o.term < last.length) (rest : List Occurrence) :
    ∃ scan' : Scan, scan'.best? = scan.best? ∧
      (∀ best?, Scan.Follows (visited ++ [next]) (last.set next.term (some next.position))
        { scan' with best? }) ∧
      Scan.step (visited ++ [next] ++ rest).toArray scan next
        = match coverStart? (last.set next.term (some next.position)) with
          | none => .ok scan'
          | some start => do
            let size ← span start next.position
            return { scan' with best? := some (shorter scan.best? ⟨start, size⟩) } := by
  have hlatest' : Latest (visited ++ [next]) (last.set next.term (some next.position)) :=
    hlatest.visit fun other hother =>
      (List.pairwise_append.mp hascending).2.2 other hother next (List.mem_singleton.mpr rfl)
  obtain ⟨hcount, counts, start, first, hadvance, hsize, haround, hfirst, honce⟩ :=
    h.exists_advance hterms rest
  have hlength : counts.size = (last.set next.term (some next.position)).length := by
    rw [hsize, List.length_set]
  refine ⟨⟨counts, (last.set next.term (some next.position)).countP Option.isSome, start,
    scan.best?⟩, rfl, fun best? => ⟨hlength, haround, rfl⟩, ?_⟩
  simp only [Scan.step, hcount, ok_bind, hadvance]
  rw [h.countP_set hlatest (hterms next List.mem_concat_self), hlength]
  split
  · rename_i hcovered
    have hall : ∀ held ∈ last.set next.term (some next.position), held ≠ none := fun held hheld =>
      Option.isSome_iff_ne_none.mp (List.countP_eq_length.mp hcovered held hheld)
    have hfirstTerm : first.term < (last.set next.term (some next.position)).length := by
      rw [List.length_set]
      exact hterms first (List.mem_of_getElem? hfirst)
    obtain ⟨hbelow, -⟩ := List.getElem?_eq_some_iff.mp hfirst
    have hitem : itemAt (visited ++ [next] ++ rest).toArray start = .ok first := by
      rw [itemAt, List.getElem?_toArray, List.getElem?_append_left hbelow, hfirst]
    rw [coverStart?_of_around hlatest' hascending haround hfirst honce hfirstTerm hall, hitem]
    rfl
  · rename_i hcovered
    rw [coverStart?_eq_none hcovered]
    rfl

/-- **The scan compares the windows that `visit` compares.** -/
lemma best?_of_foldlM_step {visited rest : List Occurrence} {last : List (Option UInt32)}
    {scan : Scan} (h : scan.Follows visited last) (hlatest : Latest visited last)
    (hascending : (visited ++ rest).Pairwise (·.position ≤ ·.position))
    (hterms : ∀ o ∈ visited ++ rest, o.term < last.length) :
    (rest.foldlM (Scan.step (visited ++ rest).toArray) scan).map (·.best?)
      = visit last scan.best? rest := by
  induction rest generalizing visited last scan with
  | nil => rfl
  | cons next rest ih =>
    rw [← List.singleton_append, ← List.append_assoc] at hascending hterms ⊢
    have hvisited := (List.pairwise_append.mp hascending).1
    have hbelow : ∀ o ∈ visited ++ [next], o.term < last.length :=
      fun o ho => hterms o (List.mem_append_left rest ho)
    obtain ⟨scan', hbest, hfollows, hstep⟩ := h.step hlatest hvisited hbelow rest
    have hlatest' := hlatest.visit (position_le_of_ascending hascending)
    have hlength : (last.set next.term (some next.position)).length = last.length :=
      List.length_set
    rw [← hlength] at hterms
    rw [List.singleton_append, List.foldlM_cons, hstep, visit]
    cases coverStart? (last.set next.term (some next.position)) with
    | none =>
      rw [← hbest]
      exact ih (hfollows scan'.best?) hlatest' hascending hterms
    | some start =>
      dsimp only
      cases span start next.position with
      | error fault => rfl
      | ok size => exact ih (hfollows _) hlatest' hascending hterms

/-! ## All occurrences -/

/-- **The scan is the scan by last positions**: over any positions it stops at the same fault or
finds the same window, so it neither leaves the occurrences nor counts below zero. -/
theorem coveringWindow?_eq_visit (positions : List (List UInt32)) :
    coveringWindow? positions
      = if positions.isEmpty || positions.any List.isEmpty then .ok none
        else visit (List.replicate positions.length none) none (merged positions) := by
  have hterms : ∀ o ∈ [] ++ merged positions,
      o.term < (List.replicate positions.length (none : Option UInt32)).length := by
    intro o ho
    obtain ⟨own, hown, -⟩ := mem_merged.mp ho
    rw [List.length_replicate]
    exact (List.getElem?_eq_some_iff.mp hown).1
  have hascending : List.Pairwise (fun a b : Occurrence => a.position ≤ b.position)
      ([] ++ merged positions) := ascending_merged positions
  rw [← best?_of_foldlM_step (Scan.follows_nil positions.length none) (latest_nil _) hascending
    hterms, coveringWindow?]
  split
  · rfl
  · dsimp only [List.nil_append]
    cases (merged positions).foldlM (Scan.step (merged positions).toArray)
      { counts := Array.replicate positions.length 0 } <;> rfl

end Retrieval.Rank

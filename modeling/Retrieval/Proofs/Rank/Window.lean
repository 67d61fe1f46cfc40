import Mathlib.Data.List.Sort
import Mathlib.Tactic.Common
import Retrieval.Proofs.Rank.Pointers

/-!
# The window scan is optimal

An interval covers lists of positions if it holds a position of each.  `Window.Best` says what the
scan is to find: a cover such that none is shorter and none of its size starts earlier.  That is one
window at most (`Window.Best.eq`), so what is found depends on the covers alone and neither on the
order of the lists nor on that of the positions in them.  Other ways to say which intervals count
come with the same notion of a best one, so it takes the test as a parameter.

What the two pointers do was told by the last position of each term, so the invariant here speaks
about the occurrences visited and no longer about the pointers.  From what is kept of them follows
what `coverStart?` means: it is the greatest start that a cover can have (`coverStart?_spec`), and
so the start of the scan is the greatest one that covers the terms seen so far.  `BestAmong` says that
the best window of the visited occurrences is kept.  A cover of one more occurrence either ends
before it, and then covered already, or reaches up to it, and then the window from the greatest
start is no longer; so one of the two windows compared is the best again (`bestAmong_visit`).
-/

namespace Retrieval.Rank

/-! ## What is sought -/

/-- Whether the interval of `size` positions from `start` on holds a position of each list. -/
def Covers (positions : List (List UInt32)) (start size : Nat) : Prop :=
  ∀ own ∈ positions, ∃ position ∈ own, start ≤ position.toNat ∧ position.toNat < start + size

/-- Among the intervals that pass a test, a window is best if it passes, no shorter interval does,
and none of its size that starts earlier. -/
structure Window.Best (passes : Nat → Nat → Prop) (window : Window) : Prop where
  sound : passes window.start.toNat window.size.toNat
  shortest : ∀ {start size}, passes start size → window.size.toNat ≤ size
  first : ∀ {start}, passes start window.size.toNat → window.start.toNat ≤ start

/-- There is one best window at most. -/
lemma Window.Best.eq {passes : Nat → Nat → Prop} {a b : Window} (ha : a.Best passes)
    (hb : b.Best passes) : a = b := by
  have hsize : a.size.toNat = b.size.toNat :=
    Nat.le_antisymm (ha.shortest hb.sound) (hb.shortest ha.sound)
  have hstart : a.start.toNat = b.start.toNat := by
    refine Nat.le_antisymm (ha.first ?_) (hb.first ?_)
    · rw [hsize]
      exact hb.sound
    · rw [← hsize]
      exact ha.sound
  cases a
  cases b
  rw [Window.mk.injEq]
  exact ⟨UInt32.toNat_inj.mp hstart, UInt32.toNat_inj.mp hsize⟩

/-- The test alone decides which window is best. -/
lemma Window.Best.congr {passes passes' : Nat → Nat → Prop} {window : Window}
    (h : ∀ start size, passes start size ↔ passes' start size) :
    window.Best passes ↔ window.Best passes' := by
  rw [show passes = passes' from funext fun start => funext fun size => propext (h start size)]

/-! ## What was visited -/

/-- Whether an interval holds an occurrence of each of the first `count` terms. -/
def Spans (visited : List Occurrence) (count start size : Nat) : Prop :=
  ∀ term < count, ∃ o ∈ visited, o.term = term ∧ start ≤ o.position.toNat ∧
    o.position.toNat < start + size

lemma Spans.append {visited : List Occurrence} {count start size : Nat}
    (h : Spans visited count start size) (more : List Occurrence) :
    Spans (visited ++ more) count start size := by
  intro term hterm
  obtain ⟨o, ho, hrest⟩ := h term hterm
  exact ⟨o, List.mem_append_left more ho, hrest⟩

/-! ## The greatest start of a cover -/

/-- **The greatest start.**  Once every term was visited, every cover starts at `coverStart?` at the
latest, and from there on up to the last visited position every term occurs. -/
lemma coverStart?_spec {visited : List Occurrence} {last : List (Option UInt32)} {start : UInt32}
    (h : Latest visited last) (hstart : coverStart? last = some start) :
    (∀ term < last.length, ∃ o ∈ visited, o.term = term ∧ start ≤ o.position) ∧
      (∃ o ∈ visited, o.position = start) ∧
      ∀ {first size}, Spans visited last.length first size → first ≤ start.toNat := by
  obtain ⟨positions, rfl, hmem, hleast⟩ := coverStart?_eq_some.mp hstart
  rw [List.length_map]
  have hheld : ∀ {term : Nat} {position : UInt32}, positions[term]? = some position →
      (positions.map some)[term]? = some (some position) := by
    intro term position hposition
    rw [List.getElem?_map, hposition]
    rfl
  obtain ⟨least, hleastterm⟩ := List.mem_iff_getElem?.mp hmem
  refine ⟨fun term hterm => ?_, ?_, fun {first size} hspans => ?_⟩
  · have hposition : positions[term]? = some positions[term] := List.getElem?_eq_getElem hterm
    exact ⟨_, h.mem (hheld hposition), rfl, hleast _ (List.mem_of_getElem? hposition)⟩
  · exact ⟨_, h.mem (hheld hleastterm), rfl⟩
  · obtain ⟨hbelow, -⟩ := List.getElem?_eq_some_iff.mp hleastterm
    obtain ⟨o, ho, hterm, hfirst, -⟩ := hspans least hbelow
    exact Nat.le_trans hfirst (UInt32.le_iff_toNat_le.mp (h.greatest (hheld hleastterm) o ho hterm))

/-- No cover of the visited occurrences starts after the last of them. -/
lemma coverStart?_le {visited : List Occurrence} {last : List (Option UInt32)} {o : Occurrence}
    {start : UInt32} (h : Latest (visited ++ [o]) last)
    (ho : ∀ other ∈ visited, other.position ≤ o.position) (hstart : coverStart? last = some start) :
    start ≤ o.position := by
  obtain ⟨-, ⟨first, hfirst, rfl⟩, -⟩ := coverStart?_spec h hstart
  exact position_le_of_mem_append ho first hfirst

lemma not_spans {visited : List Occurrence} {last : List (Option UInt32)} (hlast : last ≠ [])
    (h : Latest visited last) (hstart : coverStart? last = none) (start size : Nat) :
    ¬ Spans visited last.length start size := by
  intro hspans
  obtain ⟨term, hterm⟩ := List.mem_iff_getElem?.mp (none_mem_of_coverStart? hlast hstart)
  obtain ⟨hbelow, -⟩ := List.getElem?_eq_some_iff.mp hterm
  obtain ⟨o, ho, hsame, -⟩ := hspans term hbelow
  exact h.absent hterm o ho hsame

/-! ## The best window of the visited occurrences -/

/-- The best of the windows over visited occurrences, if they have one.  It ends at a visited
position. -/
def BestAmong (visited : List Occurrence) (count : Nat) : Option Window → Prop
  | none => ∀ start size, ¬ Spans visited count start size
  | some window =>
    Spans visited count window.start.toNat window.size.toNat ∧
    (∀ {start size}, Spans visited count start size → window.size.toNat ≤ size) ∧
    (∀ {start}, Spans visited count start window.size.toNat → window.start.toNat ≤ start) ∧
    ∃ o ∈ visited, window.start.toNat + window.size.toNat ≤ o.position.toNat + 1

lemma bestAmong_nil {count : Nat} (hcount : 0 < count) : BestAmong [] count none := by
  intro start size hspans
  obtain ⟨o, ho, -⟩ := hspans 0 hcount
  simp at ho

/-- A window that does not start behind its end has a difference. -/
lemma span_eq_checkedAdd {start stop : UInt32} (hle : start ≤ stop) :
    span start stop = checkedAdd (stop - start) 1 := by
  have hdifference : checkedSub stop start = .ok (stop - start) := if_pos hle
  rw [span, hdifference, ok_bind]

/-- The size of a window does not overflow, since positions are counted from 1. -/
lemma span_eq {start stop : UInt32} (hle : start ≤ stop) (hstart : 1 ≤ start.toNat) :
    ∃ size, span start stop = .ok size ∧ start.toNat + size.toNat = stop.toNat + 1 := by
  have hle' := UInt32.le_iff_toNat_le.mp hle
  have hstop := stop.toNat_lt
  have hdiff : (stop - start).toNat = stop.toNat - start.toNat := UInt32.toNat_sub_of_le _ _ hle
  have hfits : (stop - start).toNat + (1 : UInt32).toNat < UInt32.size := by
    rw [hdiff, UInt32.toNat_one]
    exact Nat.lt_of_le_of_lt (by omega) hstop
  refine ⟨stop - start + 1, (span_eq_checkedAdd hle).trans (checkedAdd_of_lt hfits), ?_⟩
  have hsum : (stop - start + 1).toNat = (stop - start).toNat + 1 := by
    rw [UInt32.toNat_add, UInt32.toNat_one]
    exact Nat.mod_eq_of_lt hfits
  omega

/-- A cover of one more occurrence either was one before, or it reaches up to the occurrence.  Then
the window that ends there, from a start that is no less, is no longer, and of the same size only if
it starts no later. -/
lemma Spans.before_or_le {visited : List Occurrence} {count first width start size : Nat}
    {o : Occurrence} (h : Spans (visited ++ [o]) count first width) (hfirst : first ≤ start)
    (hsize : start + size = o.position.toNat + 1) :
    Spans visited count first width ∨ (size ≤ width ∧ (width = size → start ≤ first)) := by
  by_cases hreaches : o.position.toNat < first + width
  · exact Or.inr ⟨by omega, fun hsame => by omega⟩
  · refine Or.inl fun term hterm => ?_
    obtain ⟨other, hother, hsame, hfirst, hlast⟩ := h term hterm
    rcases List.mem_append.mp hother with hearlier | hcurrent
    · exact ⟨other, hearlier, hsame, hfirst, hlast⟩
    · rw [List.mem_singleton.mp hcurrent] at hlast
      exact absurd hlast hreaches

/-- **One occurrence.**  The shorter one of the best window so far and of the window that ends here
is the best window now. -/
lemma BestAmong.visit {visited : List Occurrence} {count : Nat} {best? : Option Window}
    {o : Occurrence} {start size : UInt32} (h : BestAmong visited count best?)
    (ho : ∀ other ∈ visited, other.position ≤ o.position)
    (hcover : ∀ term < count, ∃ other ∈ visited ++ [o], other.term = term ∧
      start ≤ other.position)
    (hgreatest : ∀ {first size}, Spans (visited ++ [o]) count first size → first ≤ start.toNat)
    (hsize : start.toNat + size.toNat = o.position.toNat + 1) :
    BestAmong (visited ++ [o]) count (some (shorter best? ⟨start, size⟩)) := by
  have habove : ∀ other ∈ visited ++ [o], other.position.toNat ≤ o.position.toNat :=
    fun other hother => UInt32.le_iff_toNat_le.mp (position_le_of_mem_append ho other hother)
  have hnew : Spans (visited ++ [o]) count start.toNat size.toNat := by
    intro term hterm
    obtain ⟨other, hother, hsame, hstart⟩ := hcover term hterm
    have := habove other hother
    exact ⟨other, hother, hsame, UInt32.le_iff_toNat_le.mp hstart, by omega⟩
  have hcases : ∀ {first width}, Spans (visited ++ [o]) count first width →
      Spans visited count first width ∨
        (size.toNat ≤ width ∧ (width = size.toNat → start.toNat ≤ first)) :=
    fun hspans => hspans.before_or_le (hgreatest hspans) hsize
  have hends : ∃ other ∈ visited ++ [o], start.toNat + size.toNat ≤ other.position.toNat + 1 :=
    ⟨o, by simp, Nat.le_of_eq hsize⟩
  cases best? with
  | none =>
    refine ⟨hnew, fun hspans => ?_, fun hspans => ?_, hends⟩
    · exact ((hcases hspans).resolve_left (h _ _)).1
    · exact ((hcases hspans).resolve_left (h _ _)).2 rfl
  | some best =>
    obtain ⟨hspansbest, hshortest, hfirstbest, last, hlast, hlastends⟩ := h
    by_cases hless : size < best.size
    · rw [shorter, if_pos hless]
      have hless' := UInt32.lt_iff_toNat_lt.mp hless
      refine ⟨hnew, fun hspans => ?_, fun hspans => ?_, hends⟩
      · rcases hcases hspans with hold | ⟨hle, -⟩
        · exact Nat.le_trans (Nat.le_of_lt hless') (hshortest hold)
        · exact hle
      · rcases hcases hspans with hold | ⟨-, hstarts⟩
        · exact absurd (hshortest hold) (Nat.not_le.mpr hless')
        · exact hstarts rfl
    · rw [shorter, if_neg hless]
      have hless' : best.size.toNat ≤ size.toNat :=
        UInt32.le_iff_toNat_le.mp (UInt32.not_lt.mp hless)
      refine ⟨hspansbest.append [o], fun hspans => ?_, fun hspans => ?_,
        last, List.mem_append_left _ hlast, hlastends⟩
      · rcases hcases hspans with hold | ⟨hle, -⟩
        · exact hshortest hold
        · exact Nat.le_trans hless' hle
      · rcases hcases hspans with hold | ⟨hle, hstarts⟩
        · exact hfirstbest hold
        · -- both windows have one size, and the old one ends no later
          have := hstarts (Nat.le_antisymm hless' hle)
          have := habove last (List.mem_append_left _ hlast)
          omega

/-! ## All occurrences -/

/-- **The scan.**  Over ascending positions, counted from 1, it never stops, and keeps the best
window. -/
lemma bestAmong_visit {visited rest : List Occurrence} {last : List (Option UInt32)}
    {best? : Option Window} (hlast : last ≠ []) (hlatest : Latest visited last)
    (hbest : BestAmong visited last.length best?)
    (hascending : (visited ++ rest).Pairwise (·.position ≤ ·.position))
    (hpositive : ∀ o ∈ visited ++ rest, 1 ≤ o.position.toNat) :
    ∃ found?, visit last best? rest = .ok found? ∧
      BestAmong (visited ++ rest) last.length found? := by
  induction rest generalizing visited last best? with
  | nil => exact ⟨best?, rfl, by rwa [List.append_nil]⟩
  | cons o rest ih =>
    rw [← List.singleton_append, ← List.append_assoc] at hascending hpositive ⊢
    have ho := position_le_of_ascending hascending
    have hlatest' := hlatest.visit ho
    have hlength : (last.set o.term (some o.position)).length = last.length := List.length_set
    have hne : last.set o.term (some o.position) ≠ [] := by
      rw [← List.length_pos_iff, hlength, List.length_pos_iff]
      exact hlast
    rw [← hlength] at hbest ⊢
    rw [List.singleton_append, Rank.visit]
    cases hstart : coverStart? (last.set o.term (some o.position)) with
    | none =>
      refine ih hne hlatest' ?_ hascending hpositive
      cases best? with
      | none => exact not_spans hne hlatest' hstart
      | some best =>
        exact absurd (hbest.1.append [o]) (not_spans hne hlatest' hstart _ _)
    | some start =>
      have hle := coverStart?_le hlatest' ho hstart
      obtain ⟨hcover, ⟨first, hfirst, rfl⟩, hgreatest⟩ := coverStart?_spec hlatest' hstart
      obtain ⟨size, hspan, hsize⟩ :=
        span_eq hle (hpositive first (List.mem_append_left rest hfirst))
      simp only [hspan, ok_bind]
      exact ih hne hlatest' (hbest.visit ho hcover hgreatest hsize) hascending hpositive

/-! ## The merged occurrences -/

lemma spans_merged {positions : List (List UInt32)} {start size : Nat} :
    Spans (merged positions) positions.length start size ↔ Covers positions start size := by
  constructor
  · intro hspans own hown
    obtain ⟨term, hterm⟩ := List.mem_iff_getElem?.mp hown
    obtain ⟨hbelow, -⟩ := List.getElem?_eq_some_iff.mp hterm
    obtain ⟨o, ho, rfl, hrest⟩ := hspans term hbelow
    obtain ⟨own', hown', hposition⟩ := mem_merged.mp ho
    rw [hterm] at hown'
    cases hown'
    exact ⟨o.position, hposition, hrest⟩
  · intro hcovers term hterm
    have hown : positions[term]? = some positions[term] := List.getElem?_eq_getElem hterm
    obtain ⟨position, hposition, hrest⟩ := hcovers _ (List.mem_of_getElem? hown)
    exact ⟨⟨position, term⟩, mem_merged.mpr ⟨_, hown, hposition⟩, rfl, hrest⟩

/-- Nonempty lists are covered by an interval that is long enough. -/
lemma exists_covers {positions : List (List UInt32)} (h : ∀ own ∈ positions, own ≠ []) :
    Covers positions 0 UInt32.size := by
  intro own hown
  obtain ⟨position, hposition⟩ := List.exists_mem_of_ne_nil own (h own hown)
  exact ⟨position, hposition, Nat.zero_le _, by simpa using position.toNat_lt⟩

/-- **The window scan is optimal.**  Over lists of positions, counted from 1, that all hold one, it
finds the best window. -/
theorem coveringWindow?_best {positions : List (List UInt32)} (hpositions : positions ≠ [])
    (hown : ∀ own ∈ positions, own ≠ [])
    (hpositive : ∀ own ∈ positions, ∀ position ∈ own, 1 ≤ position.toNat) :
    ∃ window, coveringWindow? positions = .ok (some window) ∧ window.Best (Covers positions) := by
  have hnone : positions.any List.isEmpty = false := by
    rw [List.any_eq_false]
    intro own hmem
    simpa using hown own hmem
  have hsome : positions.isEmpty = false := by
    cases positions with
    | nil => exact absurd rfl hpositions
    | cons own rest => rfl
  have hpositive' : ∀ o ∈ [] ++ merged positions, 1 ≤ o.position.toNat := by
    intro o ho
    obtain ⟨own, hmem, hposition⟩ := mem_merged.mp ho
    exact hpositive own (List.mem_of_getElem? hmem) o.position hposition
  have hcount : 0 < positions.length := List.length_pos_iff.mpr hpositions
  have hlast : List.replicate positions.length (none : Option UInt32) ≠ [] := by
    rwa [← List.length_pos_iff, List.length_replicate]
  have hnothing :
      BestAmong [] (List.replicate positions.length (none : Option UInt32)).length none :=
    bestAmong_nil (by rwa [List.length_replicate])
  have hascending : List.Pairwise (fun a b : Occurrence => a.position ≤ b.position)
      ([] ++ merged positions) := ascending_merged positions
  obtain ⟨found?, hvisit, hbest⟩ :=
    bestAmong_visit hlast (latest_nil _) hnothing hascending hpositive'
  rw [List.length_replicate, List.nil_append] at hbest
  rw [coveringWindow?_eq_visit, hsome, hnone, hvisit]
  cases found? with
  | none => exact absurd (spans_merged.mpr (exists_covers hown)) (hbest _ _)
  | some window =>
    obtain ⟨hcovers, hshortest, hfirst, -⟩ := hbest
    exact ⟨window, rfl, spans_merged.mp hcovers, fun h => hshortest (spans_merged.mpr h),
      fun h => hfirst (spans_merged.mpr h)⟩

lemma coveringWindow?_eq_none {positions : List (List UInt32)}
    (h : positions = [] ∨ [] ∈ positions) : coveringWindow? positions = .ok none := by
  rw [coveringWindow?_eq_visit, if_pos]
  rw [Bool.or_eq_true, List.isEmpty_iff, List.any_eq_true]
  exact h.imp_right fun hmem => ⟨[], hmem, rfl⟩

end Retrieval.Rank

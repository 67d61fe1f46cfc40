import Mathlib.Tactic.Common
import Retrieval.Proofs.Unicode.Cut
import Retrieval.Unicode.Lowercase

/-!
# Lower case is final

A text in lower case is not changed by lowering it again, and lowering creates no character of a
kind that text is cut at: no white space and no punctuation.

Both are facts about the table, and both are checked run by run and not letter by letter.  The
lower-case letters of a run lie in an interval, and this interval meets no other run, or it meets
one in which the capitals stand at every second place and only steps on the places between them
(`CaseRun.apart`).  And it keeps away from the code points of `reserved`.  So a character of a
lowered text is settled: lowering leaves it alone, whatever stands beside it
(`isSettled_lowercase`).
-/

namespace Retrieval.Unicode

/-! ## The table -/

/-- Whether a code point is the lower-case one of a letter of the run. -/
def CaseRun.HasTarget (run : CaseRun) (n : Nat) : Prop :=
  run.target ≤ n ∧ n ≤ run.target + (run.last - run.first) ∧ (n - run.target) % run.stride = 0

/-- Whether no lower-case letter of a run is a letter of another run.  Intervals that meet are told
apart by parity.  The test is put in terms of the comparisons that compute at once on numerals,
since it is made for all pairs of runs. -/
def CaseRun.apart (run other : CaseRun) : Bool :=
  Nat.blt (run.target + (run.last - run.first)) other.first ||
    (Nat.blt other.last run.target ||
      (Nat.beq other.stride 2 && (Nat.beq run.stride 2 || Nat.beq run.first run.last) &&
        Nat.beq ((run.target + other.first) % 2) 1))

lemma CaseRun.apart_iff {run other : CaseRun} : run.apart other = true ↔
    run.target + (run.last - run.first) < other.first ∨ other.last < run.target ∨
      (other.stride = 2 ∧ (run.stride = 2 ∨ run.first = run.last)) ∧
        (run.target + other.first) % 2 = 1 := by
  simp only [CaseRun.apart, Bool.or_eq_true, Bool.and_eq_true, Nat.blt_eq, Nat.beq_eq]

/-- The code points that text is cut at: white space and punctuation. -/
def separators : Ranges :=
  whiteSpaceRanges ++ [(0x21, 0x2F), (0x3A, 0x40), (0x5B, 0x60), (0x7B, 0x7E), (0xAB, 0xAB),
    (0xBB, 0xBB)]

/-- Code points that lowering must not create: separators, the two letters with rules of their own,
and what is no character at all. -/
def reserved : Ranges :=
  separators ++ [(0x0130, 0x0130), (0x03A3, 0x03A3), (0xD800, 0xDFFF)]

lemma exists_hasTarget {runs : List CaseRun} {n m : Nat} (h : lowerPointIn? runs n = some m) :
    ∃ run ∈ runs, run.HasTarget m := by
  induction runs with
  | nil => cases h
  | cons run rest ih =>
    rw [lowerPointIn?] at h
    split at h
    · cases h
    · split at h
      · rename_i hfirst hrun
        obtain rfl := Option.some.inj h
        exact ⟨run, List.mem_cons_self, by omega, by omega, by
          rw [Nat.add_sub_cancel_left]
          exact hrun.2⟩
      · obtain ⟨other, hother, htarget⟩ := ih h
        exact ⟨other, List.mem_cons_of_mem run hother, htarget⟩

lemma lowerPointIn?_eq_none {runs : List CaseRun} {run : CaseRun} {n : Nat}
    (h : run.HasTarget n) (hapart : ∀ other ∈ runs, run.apart other = true) :
    lowerPointIn? runs n = none := by
  obtain ⟨hlow, hhigh, hstep⟩ := h
  induction runs with
  | nil => rfl
  | cons other rest ih =>
    rw [List.forall_mem_cons] at hapart
    rw [lowerPointIn?]
    split
    · rfl
    · rename_i hfirst
      rw [if_neg, ih hapart.2]
      rintro ⟨hlast, hother⟩
      rcases CaseRun.apart_iff.mp hapart.1 with hbelow | habove | ⟨⟨hstride, hsteps⟩, hparity⟩
      · omega
      · omega
      · -- both steps are even, so the parities of the first places decide
        rw [hstride] at hother
        rcases hsteps with htwo | hone
        · rw [htwo] at hstep
          omega
        · omega

lemma apart_caseRuns :
    (caseRuns.all fun run => caseRuns.all fun other => run.apart other) = true := by
  decide +kernel

lemma reserved_caseRuns : ∀ run ∈ caseRuns, run.target + (run.last - run.first) < 0x110000 ∧
    ∀ range ∈ reserved, run.target + (run.last - run.first) < range.1 ∨ range.2 < run.target := by
  decide +kernel

/-- What lowering makes of a letter is no letter of the table, and keeps away from the reserved code
points. -/
lemma lowered_point {n m : Nat} (h : lowerPointIn? caseRuns n = some m) :
    lowerPointIn? caseRuns m = none ∧ m < 0x110000 ∧
      ∀ range ∈ reserved, m < range.1 ∨ range.2 < m := by
  obtain ⟨run, hrun, htarget⟩ := exists_hasTarget h
  have hapart := List.all_eq_true.mp (List.all_eq_true.mp apart_caseRuns run hrun)
  obtain ⟨hbelow, hranges⟩ := reserved_caseRuns run hrun
  obtain ⟨hlow, hhigh, -⟩ := id htarget
  refine ⟨lowerPointIn?_eq_none htarget hapart, by omega, fun range hrange => ?_⟩
  rcases hranges range hrange with hfirst | hlast
  · exact Or.inl (by omega)
  · exact Or.inr (by omega)

/-! ## Characters -/

/-- A character that lowering leaves alone, whatever stands beside it. -/
def IsSettled (c : Char) : Prop :=
  c ≠ 'Σ' ∧ lowerChar c = [c]

instance (c : Char) : Decidable (IsSettled c) :=
  inferInstanceAs (Decidable (_ ∧ _))

lemma toNat_ofNat {n : Nat} (h : n.isValidChar) : (Char.ofNat n).toNat = n := by
  rw [Char.ofNat, dif_pos h]
  rfl

/-- Whether the character is one that text is cut at. -/
def IsSeparator (c : Char) : Prop :=
  ∃ range ∈ separators, range.1 ≤ c.toNat ∧ c.toNat ≤ range.2

instance (c : Char) : Decidable (IsSeparator c) :=
  inferInstanceAs (Decidable (∃ range ∈ separators, _))

lemma isSeparator_of_isWhiteSpace {c : Char} (h : isWhiteSpace c = true) : IsSeparator c := by
  obtain ⟨range, hrange, hwithin⟩ := Ranges.exists_of_coversPoint h
  exact ⟨range, List.mem_append_left _ hrange, hwithin⟩

lemma isSeparator_of_isCut {c : Char} (h : isCut c = true) : IsSeparator c := by
  simp only [isCut, Bool.or_eq_true, decide_eq_true_eq] at h
  rcases h with ((hwhite | rfl) | rfl) | rfl
  · exact isSeparator_of_isWhiteSpace hwhite
  · decide
  · decide
  · decide

lemma lowerPointIn?_eq_none_of_outside {runs : List CaseRun} {n : Nat}
    (h : ∀ run ∈ runs, n < run.first ∨ run.last < n) : lowerPointIn? runs n = none := by
  induction runs with
  | nil => rfl
  | cons run rest ih =>
    rw [List.forall_mem_cons] at h
    rw [lowerPointIn?]
    split
    · rfl
    · rw [if_neg (by omega), ih h.2]

lemma separators_caseRuns : ∀ range ∈ separators, ∀ run ∈ caseRuns,
    range.2 < run.first ∨ run.last < range.1 := by
  decide +kernel

/-- **Lowering keeps separators.** -/
theorem isSettled_of_isSeparator {c : Char} (h : IsSeparator c) : IsSettled c := by
  have hne : c ≠ 'Σ' ∧ c ≠ 'İ' := by
    refine ⟨?_, ?_⟩
    · rintro rfl
      exact absurd h (by decide)
    · rintro rfl
      exact absurd h (by decide)
  obtain ⟨range, hrange, hfirst, hlast⟩ := h
  have hnone : lowerPointIn? caseRuns c.toNat = none :=
    lowerPointIn?_eq_none_of_outside fun run hrun => by
      have := separators_caseRuns range hrange run hrun
      omega
  exact ⟨hne.1, by rw [lowerChar, if_neg hne.2, hnone]⟩

/-- Whether the character is one that lowering must not create. -/
def IsReserved (c : Char) : Prop :=
  ∃ range ∈ reserved, range.1 ≤ c.toNat ∧ c.toNat ≤ range.2

instance (c : Char) : Decidable (IsReserved c) :=
  inferInstanceAs (Decidable (∃ range ∈ reserved, _))

lemma IsSeparator.isReserved {c : Char} (h : IsSeparator c) : IsReserved c := by
  obtain ⟨range, hrange, hwithin⟩ := h
  exact ⟨range, List.mem_append_left _ hrange, hwithin⟩

/-- A letter that lowering creates is settled and not reserved. -/
lemma isSettled_of_mem_lowerChar {c created : Char} (hc : c ≠ 'Σ')
    (h : created ∈ lowerChar c) : IsSettled created ∧ (IsReserved created → created = c) := by
  rw [lowerChar] at h
  split at h
  · -- the capital I with a dot becomes two characters
    rcases List.mem_cons.mp h with rfl | h
    · exact ⟨by decide, fun hreserved => absurd hreserved (by decide)⟩
    · rw [List.mem_singleton.mp h]
      exact ⟨by decide, fun hreserved => absurd hreserved (by decide)⟩
  · rename_i hdot
    cases hpoint : lowerPointIn? caseRuns c.toNat with
    | none =>
      rw [hpoint] at h
      rw [List.mem_singleton.mp h]
      exact ⟨⟨hc, by rw [lowerChar, if_neg hdot, hpoint]⟩, fun _ => rfl⟩
    | some n =>
      rw [hpoint] at h
      rw [List.mem_singleton.mp h]
      obtain ⟨hnone, hbelow, hranges⟩ := lowered_point hpoint
      have hvalid : n.isValidChar := by
        have := hranges (0xD800, 0xDFFF) (by decide)
        exact this.imp id fun hlast => ⟨hlast, hbelow⟩
      have hcreated : (Char.ofNat n).toNat = n := toNat_ofNat hvalid
      have hfree : ¬ IsReserved (Char.ofNat n) := by
        rintro ⟨range, hrange, hfirst, hlast⟩
        have := hranges range hrange
        omega
      have hne : ∀ other : Char, IsReserved other → Char.ofNat n ≠ other :=
        fun other hother heq => hfree (heq ▸ hother)
      refine ⟨⟨hne 'Σ' (by decide), ?_⟩, fun hreserved => absurd hreserved hfree⟩
      rw [lowerChar, if_neg (hne 'İ' (by decide)), hcreated, hnone]

/-! ## Texts -/

lemma mem_lowercaseFrom {afterCased : Bool} {text : List Char} {created : Char}
    (h : created ∈ lowercaseFrom afterCased text) :
    IsSettled created ∧ (IsReserved created → created ∈ text) := by
  induction text generalizing afterCased with
  | nil => cases h
  | cons c rest ih =>
    rw [lowercaseFrom] at h
    rcases List.mem_append.mp h with hfirst | hrest
    · by_cases hc : c = 'Σ'
      · rw [if_pos hc, List.mem_singleton] at hfirst
        split at hfirst
        · subst hfirst
          exact ⟨by decide, fun hreserved => absurd hreserved (by decide)⟩
        · subst hfirst
          exact ⟨by decide, fun hreserved => absurd hreserved (by decide)⟩
      · rw [if_neg hc] at hfirst
        obtain ⟨hsettled, hkept⟩ := isSettled_of_mem_lowerChar hc hfirst
        exact ⟨hsettled, fun hreserved => hkept hreserved ▸ List.mem_cons_self⟩
    · obtain ⟨hsettled, hkept⟩ := ih hrest
      exact ⟨hsettled, fun hreserved => List.mem_cons_of_mem c (hkept hreserved)⟩

/-- **Lowering settles a text.** -/
theorem isSettled_lowercase {text : List Char} {c : Char} (h : c ∈ lowercase text) :
    IsSettled c :=
  (mem_lowercaseFrom h).1

/-- **Lowering creates no separator.** -/
theorem mem_of_isSeparator_lowercase {text : List Char} {c : Char} (h : c ∈ lowercase text)
    (hseparator : IsSeparator c) : c ∈ text :=
  (mem_lowercaseFrom h).2 hseparator.isReserved

/-- Lowering creates nothing that a query is cut at. -/
lemma mem_of_isCut_lowercase {text : List Char} {c : Char} (h : c ∈ lowercase text)
    (hcut : isCut c = true) : c ∈ text :=
  mem_of_isSeparator_lowercase h (isSeparator_of_isCut hcut)

lemma mem_lowercaseFrom_of_settled {afterCased : Bool} {text : List Char} {c : Char}
    (hc : IsSettled c) (h : c ∈ text) : c ∈ lowercaseFrom afterCased text := by
  induction text generalizing afterCased with
  | nil => cases h
  | cons d rest ih =>
    rw [lowercaseFrom]
    rcases List.mem_cons.mp h with rfl | hrest
    · refine List.mem_append_left _ ?_
      rw [if_neg hc.1, hc.2]
      exact List.mem_cons_self
    · exact List.mem_append_right _ (ih hrest)

/-- Lowering keeps settled characters. -/
lemma mem_lowercase_of_settled {text : List Char} {c : Char} (hc : IsSettled c) (h : c ∈ text) :
    c ∈ lowercase text :=
  mem_lowercaseFrom_of_settled hc h

lemma lowercase_ne_nil {text : List Char} (h : text ≠ []) : lowercase text ≠ [] := by
  cases text with
  | nil => exact absurd rfl h
  | cons c rest =>
    rw [lowercase, lowercaseFrom]
    refine List.append_ne_nil_of_left_ne_nil ?_ _
    split_ifs
    · simp
    · simp
    · unfold lowerChar
      split_ifs
      · simp
      · cases lowerPointIn? caseRuns c.toNat <;> simp

lemma lowercaseFrom_of_settled {afterCased : Bool} {text : List Char}
    (h : ∀ c ∈ text, IsSettled c) : lowercaseFrom afterCased text = text := by
  induction text generalizing afterCased with
  | nil => rfl
  | cons c rest ih =>
    rw [List.forall_mem_cons] at h
    rw [lowercaseFrom, if_neg h.1.1, h.1.2, ih h.2]
    rfl

/-! ## White space -/

lemma disjoint_white_cased : Ranges.disjoint whiteSpaceRanges casedRanges = true := by
  decide

lemma disjoint_white_caseIgnorable :
    Ranges.disjoint whiteSpaceRanges caseIgnorableRanges = true := by
  decide +kernel

lemma isCased_of_white {c : Char} (hc : isWhiteSpace c = true) : isCased c = false :=
  Ranges.coversPoint_of_disjoint disjoint_white_cased hc

lemma isCaseIgnorable_of_white {c : Char} (hc : isWhiteSpace c = true) :
    isCaseIgnorable c = false :=
  Ranges.coversPoint_of_disjoint disjoint_white_caseIgnorable hc

/-- White space hides what stands behind it from the rule for the final sigma. -/
lemma startsCased_append_cons {c : Char} (hc : isWhiteSpace c = true) (before after : List Char) :
    startsCased (before ++ c :: after) = startsCased before := by
  induction before with
  | nil => simp [startsCased, isCased_of_white hc, isCaseIgnorable_of_white hc]
  | cons d rest ih => rw [List.cons_append, startsCased, startsCased, ih]

lemma lowercaseFrom_append_cons {c : Char} (hc : isWhiteSpace c = true) (afterCased : Bool)
    (before after : List Char) :
    lowercaseFrom afterCased (before ++ c :: after)
      = lowercaseFrom afterCased before ++ c :: lowercase after := by
  induction before generalizing afterCased with
  | nil =>
    obtain ⟨hne, hlower⟩ := isSettled_of_isSeparator (isSeparator_of_isWhiteSpace hc)
    simp [lowercaseFrom, lowercase, hne, hlower, isCased_of_white hc, isCaseIgnorable_of_white hc]
  | cons d rest ih =>
    rw [List.cons_append, lowercaseFrom, startsCased_append_cons hc, ih, lowercaseFrom,
      List.append_assoc]

/-- **Lowering does not reach across white space.** -/
theorem lowercase_append_cons {c : Char} (hc : isWhiteSpace c = true)
    (before after : List Char) :
    lowercase (before ++ c :: after) = lowercase before ++ c :: lowercase after :=
  lowercaseFrom_append_cons hc false before after

/-! ## Lowering twice -/

/-- **Lowering is idempotent.** -/
theorem lowercase_lowercase (text : List Char) : lowercase (lowercase text) = lowercase text :=
  lowercaseFrom_of_settled fun _ h => isSettled_lowercase h

end Retrieval.Unicode

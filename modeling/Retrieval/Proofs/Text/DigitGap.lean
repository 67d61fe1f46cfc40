import Mathlib.Tactic.Common
import Retrieval.Proofs.Unicode.Cut
import Retrieval.Text.DigitGap

/-!
# Texts without gaps between digits

A sweep only leaves characters out, so a text that joining does not change is one that a sweep does
not change (`closeGaps_of_joinNumbers`), and there the scan never meets a digit behind a gap.  This
is so for each part of the text as well when it is cut at white space
(`joinNumbers_of_append_cons`).
-/

namespace Retrieval.Text

open Unicode (isDecimalDigit isWhiteSpace)

lemma disjoint_white_digit :
    Unicode.Ranges.disjoint Unicode.whiteSpaceRanges Unicode.decimalDigitRanges = true := by
  decide +kernel

/-- White space is no digit. -/
lemma not_digit_of_white {c : Char} (h : isWhiteSpace c = true) : isDecimalDigit c = false :=
  Unicode.Ranges.coversPoint_of_disjoint disjoint_white_digit h

/-! ## Sweeps -/

/-- A sweep only leaves characters out. -/
lemma closeGapsFrom_sublist (gap? : Option (List Char)) (text : List Char) :
    (closeGapsFrom gap? text).Sublist ((gap?.getD []).reverse ++ text) := by
  induction text generalizing gap? with
  | nil =>
    simp [closeGapsFrom]
  | cons c rest ih =>
    cases gap? with
    | none =>
      rw [closeGapsFrom]
      refine List.Sublist.cons_cons c ?_
      have := ih (if isDecimalDigit c then some [] else none)
      split_ifs at this ⊢ <;> exact this
    | some gap =>
      rw [closeGapsFrom]
      split_ifs with hwhite hdigit hgap
      · simpa using ih (some (c :: gap))
      · exact (List.Sublist.cons_cons c (ih (some []))).trans (List.sublist_append_right _ _)
      · exact (List.Sublist.cons_cons c (ih none)).trans (List.sublist_append_right _ _)
      · exact (List.Sublist.cons_cons c (ih none)).append_left _

lemma sweep_sublist (limit : Nat) (text : List Char) : (sweep limit text).Sublist text := by
  induction limit generalizing text with
  | zero => exact List.Sublist.refl text
  | succ limit ih =>
    rw [sweep]
    split
    · exact List.Sublist.refl text
    · exact (ih _).trans (closeGapsFrom_sublist none text)

/-- **What joining does not change, a sweep does not change.** -/
theorem closeGaps_of_joinNumbers {text : List Char} (h : joinNumbers text = text) :
    closeGaps text = text := by
  cases text with
  | nil => rfl
  | cons c rest =>
    rw [joinNumbers, List.length_cons, sweep] at h
    split at h
    · assumption
    · -- the text comes back, so the sweep left nothing out
      have hswept : (c :: rest).Sublist (closeGaps (c :: rest)) := by
        have hsublist := sweep_sublist rest.length (closeGaps (c :: rest))
        rwa [h] at hsublist
      have hleft := closeGapsFrom_sublist none (c :: rest)
      exact hleft.eq_of_length (Nat.le_antisymm hleft.length_le hswept.length_le)

lemma joinNumbers_of_closeGaps {text : List Char} (h : closeGaps text = text) :
    joinNumbers text = text := by
  cases text with
  | nil => rfl
  | cons c rest => rw [joinNumbers, List.length_cons, sweep, if_pos h]

/-! ## Scans that change nothing -/

/-- Whether the scan leaves nothing out of a text that it meets with a gap behind it. -/
def Whole (gap? : Option (List Char)) (text : List Char) : Prop :=
  closeGapsFrom gap? text = (gap?.getD []).reverse ++ text

lemma whole_cons_none {c : Char} {rest : List Char} :
    Whole none (c :: rest) ↔ Whole (if isDecimalDigit c then some [] else none) rest := by
  rw [Whole, Whole, closeGapsFrom]
  split_ifs <;> simp

lemma whole_cons_white {c : Char} (hc : isWhiteSpace c = true) {gap rest : List Char} :
    Whole (some gap) (c :: rest) ↔ Whole (some (c :: gap)) rest := by
  rw [Whole, Whole, closeGapsFrom, if_pos hc]
  simp

/-- A digit behind a gap closes it. -/
lemma whole_cons_digit {c : Char} (hc : isWhiteSpace c = false) (hdigit : isDecimalDigit c = true)
    {gap rest : List Char} :
    Whole (some gap) (c :: rest) ↔ gap = [] ∧ Whole (some []) rest := by
  rw [Whole, Whole, closeGapsFrom, if_neg (by simp [hc]), if_pos hdigit]
  cases gap with
  | nil => simp
  | cons first others =>
    have hshort := (closeGapsFrom_sublist none rest).length_le
    have hlong : c :: closeGapsFrom none rest
        ≠ ((some (first :: others)).getD []).reverse ++ c :: rest := by
      intro heq
      have := congrArg List.length heq
      simp at this hshort
      omega
    simp only [List.isEmpty_cons, Bool.false_eq_true, if_false, hlong, reduceCtorEq, false_and]

lemma whole_cons_other {c : Char} (hc : isWhiteSpace c = false) (hdigit : isDecimalDigit c = false)
    {gap rest : List Char} : Whole (some gap) (c :: rest) ↔ Whole none rest := by
  rw [Whole, Whole, closeGapsFrom, if_neg (by simp [hc]), if_neg (by simp [hdigit])]
  simp

/-- A gap more can only be one to close. -/
lemma Whole.of_gap {gap text : List Char} (h : Whole (some gap) text) : Whole none text := by
  induction text generalizing gap with
  | nil => rfl
  | cons c rest ih =>
    rw [whole_cons_none]
    cases hc : isWhiteSpace c with
    | true =>
      rw [not_digit_of_white hc]
      exact ih ((whole_cons_white hc).mp h)
    | false =>
      cases hdigit : isDecimalDigit c with
      | true => exact ((whole_cons_digit hc hdigit).mp h).2
      | false => exact (whole_cons_other hc hdigit).mp h

lemma Whole.of_append_cons {blank : Char} (hblank : isWhiteSpace blank = true)
    {gap? : Option (List Char)} {before after : List Char}
    (h : Whole gap? (before ++ blank :: after)) : Whole gap? before ∧ Whole none after := by
  induction before generalizing gap? with
  | nil =>
    cases gap? with
    | none =>
      rw [List.nil_append, whole_cons_none, not_digit_of_white hblank] at h
      exact ⟨rfl, h⟩
    | some gap =>
      rw [List.nil_append, whole_cons_white hblank] at h
      exact ⟨by simp [Whole, closeGapsFrom], h.of_gap⟩
  | cons c rest ih =>
    rw [List.cons_append] at h
    cases gap? with
    | none =>
      rw [whole_cons_none] at h ⊢
      exact ih h
    | some gap =>
      cases hc : isWhiteSpace c with
      | true =>
        rw [whole_cons_white hc] at h ⊢
        exact ih h
      | false =>
        cases hdigit : isDecimalDigit c with
        | true =>
          rw [whole_cons_digit hc hdigit] at h ⊢
          exact ⟨⟨h.1, (ih h.2).1⟩, (ih h.2).2⟩
        | false =>
          rw [whole_cons_other hc hdigit] at h ⊢
          exact ih h

/-! ## White space -/

/-- **Where joining changes nothing in a text, it changes nothing in its parts.** -/
theorem joinNumbers_of_append_cons {blank : Char} (hblank : isWhiteSpace blank = true)
    {before after : List Char}
    (h : joinNumbers (before ++ blank :: after) = before ++ blank :: after) :
    joinNumbers before = before ∧ joinNumbers after = after := by
  have hwhole : Whole none (before ++ blank :: after) := closeGaps_of_joinNumbers h
  exact (hwhole.of_append_cons hblank).imp joinNumbers_of_closeGaps joinNumbers_of_closeGaps

end Retrieval.Text

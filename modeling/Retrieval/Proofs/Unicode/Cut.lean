import Mathlib.Tactic.Common
import Retrieval.Unicode.WhiteSpace
import Retrieval.Unicode.WordCharacter

/-!
# Characters that a query is cut at

A query is cut at white space, at the exclamation mark and at parentheses, whatever stands beside
them.  None of them can be part of a run of word characters, which for white space is a fact about
two tables, checked range by range (`not_word_of_isCut`).
-/

namespace Retrieval.Unicode

namespace Ranges

lemma coversPoint_eq_false {ranges : Ranges} {n : Nat}
    (h : ∀ range ∈ ranges, n < range.1 ∨ range.2 < n) : ranges.coversPoint n = false := by
  induction ranges with
  | nil => rfl
  | cons range rest ih =>
    rw [List.forall_mem_cons] at h
    rw [coversPoint]
    split
    · rfl
    · rw [if_neg (by omega), ih h.2]

lemma exists_of_coversPoint {ranges : Ranges} {n : Nat} (h : ranges.coversPoint n = true) :
    ∃ range ∈ ranges, range.1 ≤ n ∧ n ≤ range.2 := by
  induction ranges with
  | nil => cases h
  | cons range rest ih =>
    rw [coversPoint] at h
    split at h
    · cases h
    · split at h
      · exact ⟨range, List.mem_cons_self, by omega, by omega⟩
      · obtain ⟨other, hother, hwithin⟩ := ih h
        exact ⟨other, List.mem_cons_of_mem range hother, hwithin⟩

/-- Whether no code point lies in ranges of both lists. -/
def disjoint (a b : Ranges) : Bool :=
  a.all fun range => b.all fun other => Nat.blt range.2 other.1 || Nat.blt other.2 range.1

lemma coversPoint_of_disjoint {a b : Ranges} (h : a.disjoint b = true) {n : Nat}
    (hn : a.coversPoint n = true) : b.coversPoint n = false := by
  obtain ⟨range, hrange, hfirst, hlast⟩ := exists_of_coversPoint hn
  refine coversPoint_eq_false fun other hother => ?_
  have hapart := List.all_eq_true.mp (List.all_eq_true.mp h range hrange) other hother
  rw [Bool.or_eq_true, Nat.blt_eq, Nat.blt_eq] at hapart
  omega

end Ranges

/-- Whether a query is cut at the character, whatever stands beside it. -/
def isCut (c : Char) : Bool :=
  isWhiteSpace c || c = '!' || c = '(' || c = ')'

lemma disjoint_white_word : Ranges.disjoint whiteSpaceRanges wordRanges = true := by
  decide +kernel

/-- A query is never cut at a word character. -/
theorem not_word_of_isCut {c : Char} (h : isCut c = true) : isWordCharacter c = false := by
  simp only [isCut, Bool.or_eq_true, decide_eq_true_eq] at h
  rcases h with ((hwhite | rfl) | rfl) | rfl
  · exact Ranges.coversPoint_of_disjoint disjoint_white_word hwhite
  · decide
  · decide
  · decide

end Retrieval.Unicode

import Mathlib.Tactic.Common
import Retrieval.Proofs.Unicode.Decomposition
import Retrieval.Unicode.Normalization

/-!
# Normalization between white space

Normalization looks at neighbours: it sorts marks behind a starter and composes what stands
together.  White space ends both.  It is a starter, so no mark is sorted past it, and it is composed
with nothing, so it keeps apart what stands on its two sides (`compatibilityCompose_append_cons`).

The short cut for texts below U+00A0 is one, since the long way leaves such a text alone
(`compatibilityCompose_eq`).
-/

namespace Retrieval.Unicode

/-! ## Order -/

lemma placeMark_of_starter {c : Char} (hc : combiningClass c = 0) (text : List Char) :
    placeMark c text = c :: text := by
  cases text with
  | nil => rfl
  | cons d rest => rw [placeMark, hc, if_neg (by omega)]

/-- No mark is sorted past a starter. -/
lemma placeMark_append_cons {d : Char} (hd : combiningClass d = 0) (c : Char)
    (before after : List Char) :
    placeMark c (before ++ d :: after) = placeMark c before ++ d :: after := by
  induction before with
  | nil => simp only [List.nil_append, placeMark, hd, Nat.lt_irrefl, false_and, if_false,
      List.singleton_append]
  | cons e rest ih =>
    rw [List.cons_append, placeMark, placeMark]
    split_ifs
    · rw [ih, List.cons_append]
    · rfl

lemma canonicalOrder_append_cons {d : Char} (hd : combiningClass d = 0)
    (before after : List Char) :
    canonicalOrder (before ++ d :: after) = canonicalOrder before ++ d :: canonicalOrder after := by
  induction before with
  | nil => exact placeMark_of_starter hd _
  | cons c rest ih =>
    change placeMark c (canonicalOrder (rest ++ d :: after)) = _
    rw [ih, placeMark_append_cons hd]
    rfl

lemma canonicalOrder_of_starters {text : List Char} (h : ∀ c ∈ text, combiningClass c = 0) :
    canonicalOrder text = text := by
  induction text with
  | nil => rfl
  | cons c rest ih =>
    rw [List.forall_mem_cons] at h
    change placeMark c (canonicalOrder rest) = _
    rw [ih h.2, placeMark_of_starter h.1]

/-! ## Composition -/

/-- What gathers behind white space stands behind it as it is. -/
lemma composeFrom_white {blank : Char} (hblank : isWhiteSpace blank = true)
    (marks text : List Char) :
    composeFrom (some ⟨blank, marks⟩) text = blank :: (marks.reverse ++ composeFrom none text) := by
  induction text generalizing marks with
  | nil =>
    rw [composeFrom, composeFrom]
    simp [Cluster.toList]
  | cons c rest ih =>
    have hapart : compose? blank c = none := compose?_eq_none (Or.inl hblank)
    simp only [composeFrom, hapart, ite_self]
    split_ifs
    · simp [Cluster.toList]
    · rw [ih, List.reverse_cons, List.append_assoc, List.singleton_append]

lemma composeFrom_append_cons {blank : Char} (hblank : isWhiteSpace blank = true)
    (cluster? : Option Cluster) (before after : List Char) :
    composeFrom cluster? (before ++ blank :: after)
      = composeFrom cluster? before ++ blank :: composeFrom none after := by
  have hstarter := combiningClass_of_white hblank
  have hgathered : composeFrom (some ⟨blank, []⟩) after = blank :: composeFrom none after :=
    composeFrom_white hblank [] after
  induction before generalizing cluster? with
  | nil =>
    cases cluster? with
    | none =>
      simp only [List.nil_append, composeFrom, hstarter, if_true, hgathered]
      rfl
    | some cluster =>
      have hapart : compose? cluster.starter blank = none :=
        compose?_eq_none (Or.inr (Or.inl hblank))
      simp only [List.nil_append, composeFrom, hapart, ite_self, hstarter, if_true, hgathered]
      rfl
  | cons c rest ih =>
    cases cluster? with
    | none =>
      simp only [List.cons_append, composeFrom]
      split_ifs
      · exact ih _
      · rw [ih, List.cons_append]
    | some cluster =>
      simp only [List.cons_append, composeFrom]
      split
      · exact ih _
      · split_ifs
        · rw [ih, List.append_assoc]
        · exact ih _

/-! ## The short cut -/

lemma flatMap_decompose_of_lt {text : List Char} (h : ∀ c ∈ text, c.toNat < 0xA0) :
    text.flatMap decompose = text := by
  induction text with
  | nil => rfl
  | cons c rest ih =>
    rw [List.forall_mem_cons] at h
    rw [List.flatMap_cons, decompose_of_lt h.1, ih h.2, List.singleton_append]

/-- Starters that nothing is composed with stand as they are. -/
lemma composeFrom_of_lt {text : List Char} (h : ∀ c ∈ text, c.toNat < 0xA0) (starter : Char) :
    composeFrom (some { starter }) text = starter :: text := by
  induction text generalizing starter with
  | nil => rfl
  | cons c rest ih =>
    rw [List.forall_mem_cons] at h
    have hapart : compose? starter c = none := compose?_eq_none (Or.inr (Or.inr h.1))
    simp only [composeFrom, hapart, ite_self, combiningClass_of_lt h.1, if_true, ih h.2]
    rfl

/-- **The short cut is one.** -/
theorem compatibilityCompose_eq (text : List Char) :
    compatibilityCompose text = composeFrom none (canonicalOrder (text.flatMap decompose)) := by
  rw [compatibilityCompose]
  split
  · rename_i hlow
    have h : ∀ c ∈ text, c.toNat < 0xA0 := by simpa using hlow
    rw [flatMap_decompose_of_lt h,
      canonicalOrder_of_starters fun c hc => combiningClass_of_lt (h c hc)]
    cases text with
    | nil => rfl
    | cons c rest =>
      rw [List.forall_mem_cons] at h
      rw [composeFrom, combiningClass_of_lt h.1, if_pos rfl, composeFrom_of_lt h.2]
  · rfl

/-! ## White space -/

/-- **Normalization does not reach across white space.** -/
theorem compatibilityCompose_append_cons {c : Char} (hc : isWhiteSpace c = true)
    (before after : List Char) :
    ∃ blank, isWhiteSpace blank = true ∧ compatibilityCompose (before ++ c :: after)
      = compatibilityCompose before ++ blank :: compatibilityCompose after := by
  obtain ⟨blank, hblank, hdecompose⟩ := exists_decompose_of_white hc
  refine ⟨blank, hblank, ?_⟩
  rw [compatibilityCompose_eq, compatibilityCompose_eq, compatibilityCompose_eq,
    List.flatMap_append, List.flatMap_cons, hdecompose, List.singleton_append,
    canonicalOrder_append_cons (combiningClass_of_white hblank), composeFrom_append_cons hblank]

end Retrieval.Unicode

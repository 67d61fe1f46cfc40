import Mathlib.Tactic.Common
import Retrieval.Stem.Memo

/-!
# A memo tells the truth

A memo is sound if every lemma that it remembers is the lemma of its token.  Asking for a token
keeps it so and yields the lemma, whether it was remembered or not (`Sound.lemmatize`).  So nobody
who asks can tell what was asked before.
-/

namespace Retrieval.Stem.Memo

variable {lemmatizer : Lemmatizer}

/-- Whether every remembered lemma is the lemma of its token. -/
def Sound (lemmatizer : Lemmatizer) (memo : Memo) : Prop :=
  ∀ entry ∈ memo.entries, entry.2 = lemmatizer entry.1

lemma sound_empty (lemmatizer : Lemmatizer) : Sound lemmatizer {} := by
  intro entry hentry
  cases hentry

/-- What is remembered of a token is its lemma. -/
lemma Sound.eq_of_get? {memo : Memo} (h : memo.Sound lemmatizer) {token known : String}
    (hknown : memo.get? token = some known) : known = lemmatizer token := by
  obtain ⟨before, after, hsplit, -⟩ := List.lookup_eq_some_iff.mp hknown
  exact h (token, known) (by simp [hsplit])

/-- The lemma of a token may be remembered. -/
lemma Sound.insert {memo : Memo} (h : memo.Sound lemmatizer) (token : String) :
    (memo.insert token (lemmatizer token)).Sound lemmatizer := by
  intro entry hentry
  rw [Memo.insert] at hentry
  split at hentry
  · obtain ⟨known, hknown, rfl⟩ := List.mem_map.mp hentry
    split
    · rfl
    · exact h known hknown
  · rcases List.mem_append.mp hentry with hknown | hnew
    · exact h entry hknown
    · rw [List.mem_singleton.mp hnew]

/-- **A memo is transparent**: it yields the lemma, and stays sound. -/
theorem Sound.lemmatize {memo : Memo} (h : memo.Sound lemmatizer) (token : String) :
    (memo.lemmatize lemmatizer token).1 = lemmatizer token ∧
      (memo.lemmatize lemmatizer token).2.Sound lemmatizer := by
  rw [Memo.lemmatize]
  cases hknown : memo.get? token with
  | some known => exact ⟨h.eq_of_get? hknown, h⟩
  | none => exact ⟨rfl, h.insert token⟩

/-- Whatever was asked for, a memo stays sound. -/
lemma Sound.afterAll {memo : Memo} (h : memo.Sound lemmatizer) (tokens : List String) :
    (memo.afterAll lemmatizer tokens).Sound lemmatizer := by
  induction tokens generalizing memo with
  | nil => exact h
  | cons token rest ih => exact ih (h.lemmatize token).2

end Retrieval.Stem.Memo

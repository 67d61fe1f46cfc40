import Mathlib.Tactic.Common
import Retrieval.Proofs.Text.DigitGap
import Retrieval.Proofs.Text.Words
import Retrieval.Proofs.Unicode.Lowercase
import Retrieval.Proofs.Unicode.Normalization
import Retrieval.Text.Normalize

/-!
# What tokens are like

A token of a document is not empty, and it holds neither white space nor punctuation nor a character
that lowering would change (`isToken_of_mem_normalizeChars`).

Normalization, the removal of punctuation and lowering all keep to what stands between white space.
Only the joining of digits reaches across it.  So where nothing is joined the tokens of a document
are those of its words, one word after the other (`normalizeChars_eq_flatMap`).
-/

namespace Retrieval.Text

open Unicode (IsSeparator IsSettled compatibilityCompose isSettled_of_isSeparator isWhiteSpace
  lowercase)

/-! ## Punctuation -/

lemma isSeparator_of_isPunctuation {c : Char} (h : isPunctuation c = true) : IsSeparator c := by
  simp only [isPunctuation, Bool.or_eq_true, Bool.and_eq_true, decide_eq_true_eq] at h
  rcases h with ((((h | h) | h) | h) | rfl) | rfl
  · exact ⟨(0x21, 0x2F), by decide, h⟩
  · exact ⟨(0x3A, 0x40), by decide, h⟩
  · exact ⟨(0x5B, 0x60), by decide, h⟩
  · exact ⟨(0x7B, 0x7E), by decide, h⟩
  · decide
  · decide

/-- No punctuation is left. -/
lemma not_punctuation_of_mem_stripPunctuation {text : List Char} {c : Char}
    (h : c ∈ stripPunctuation text) : isPunctuation c = false := by
  obtain ⟨d, -, rfl⟩ := List.mem_map.mp h
  split_ifs with hd
  · decide
  · simpa using hd

lemma stripPunctuation_of_not {text : List Char} (h : ∀ c ∈ text, isPunctuation c = false) :
    stripPunctuation text = text := by
  rw [stripPunctuation]
  refine (List.map_congr_left fun c hc => ?_).trans (List.map_id' text)
  rw [h c hc]
  rfl

/-! ## Tokens -/

/-- Whether a text looks like a token. -/
structure IsToken (text : List Char) : Prop where
  ne_nil : text ≠ []
  not_white : ∀ c ∈ text, isWhiteSpace c = false
  not_punctuation : ∀ c ∈ text, isPunctuation c = false
  settled : ∀ c ∈ text, IsSettled c

lemma IsToken.lowercase_eq {text : List Char} (h : IsToken text) : lowercase text = text :=
  Unicode.lowercaseFrom_of_settled h.settled

/-- **Every token of a document looks like one.** -/
theorem isToken_of_mem_normalizeChars {text token : List Char} (h : token ∈ normalizeChars text) :
    IsToken token := by
  obtain ⟨hne, hchars⟩ := mem_words h
  refine ⟨hne, fun c hc => (hchars c hc).1, fun c hc => ?_, fun c hc =>
    Unicode.isSettled_lowercase (hchars c hc).2⟩
  by_contra hpunctuation
  rw [Bool.not_eq_false] at hpunctuation
  have hmem := Unicode.mem_of_isSeparator_lowercase (hchars c hc).2
    (isSeparator_of_isPunctuation hpunctuation)
  rw [not_punctuation_of_mem_stripPunctuation hmem] at hpunctuation
  cases hpunctuation

/-! ## Word by word -/

lemma piecewise_compatibilityCompose : Piecewise compatibilityCompose where
  nil := rfl
  append_cons before _ after hc := Unicode.compatibilityCompose_append_cons hc before after

lemma piecewise_stripPunctuation : Piecewise stripPunctuation :=
  piecewise_map fun c hc => by
    split_ifs
    · decide
    · exact hc

lemma piecewise_lowercase : Piecewise lowercase where
  nil := rfl
  append_cons before c after hc := ⟨c, hc, Unicode.lowercase_append_cons hc before after⟩

/-- Whether joining digits changes nothing in a text once it is normalized. -/
def JoinsNothing (text : List Char) : Prop :=
  joinNumbers (compatibilityCompose text) = compatibilityCompose text

lemma JoinsNothing.of_mem_words {text word : List Char} (h : JoinsNothing text)
    (hword : word ∈ words text) : JoinsNothing word := by
  refine Text.of_mem_words (fun before c after hc hjoins => ?_) h hword
  obtain ⟨blank, hblank, hcompose⟩ := Unicode.compatibilityCompose_append_cons hc before after
  rw [JoinsNothing, hcompose] at hjoins
  exact joinNumbers_of_append_cons hblank hjoins

lemma JoinsNothing.normalizeChars_eq {text : List Char} (h : JoinsNothing text) :
    normalizeChars text = words (lowercase (stripPunctuation (compatibilityCompose text))) := by
  rw [normalizeChars, h]

/-- **Where no digits are joined, text is normalized word by word.** -/
theorem normalizeChars_eq_flatMap {text : List Char} (h : JoinsNothing text) :
    normalizeChars text = (words text).flatMap normalizeChars := by
  have hpieces := piecewise_lowercase.comp
    (piecewise_stripPunctuation.comp piecewise_compatibilityCompose)
  rw [h.normalizeChars_eq, hpieces.words, List.flatMap_def, List.flatMap_def]
  congr 1
  exact List.map_congr_left fun word hword => (h.of_mem_words hword).normalizeChars_eq.symm

end Retrieval.Text

import Mathlib.Tactic.Common
import Retrieval.Text.Words

/-!
# Words and white space

Words are not empty and hold no white space (`mem_words`), and where a text is cut at white space
its words are those of the two parts (`words_append_cons`).  All else about words follows from
these.

A map of texts is *piecewise* if white space keeps apart what it makes of the two sides.  Then it
can be told word by word: the words of the mapped text are those of its mapped words
(`Piecewise.words`).  Piecewise maps may be applied one after the other.
-/

namespace Retrieval.Text

open Unicode (isWhiteSpace)

/-! ## Words -/

lemma wordsFrom_append_cons {c : Char} (hc : isWhiteSpace c = true)
    (read before after : List Char) :
    wordsFrom read (before ++ c :: after) = wordsFrom read before ++ words after := by
  induction before generalizing read with
  | nil =>
    rw [List.nil_append, wordsFrom_cons_of_white hc]
    rfl
  | cons d rest ih =>
    rw [List.cons_append]
    cases hd : isWhiteSpace d with
    | true =>
      rw [wordsFrom_cons_of_white hd, wordsFrom_cons_of_white hd, ih, List.append_assoc]
    | false => rw [wordsFrom_cons_of_not_white hd, wordsFrom_cons_of_not_white hd, ih]

/-- **Words are cut at white space.** -/
theorem words_append_cons {c : Char} (hc : isWhiteSpace c = true) (before after : List Char) :
    words (before ++ c :: after) = words before ++ words after :=
  wordsFrom_append_cons hc [] before after

lemma wordsFrom_of_not_white {text : List Char} (h : ∀ c ∈ text, isWhiteSpace c = false)
    (read : List Char) : wordsFrom read text = closed (text.reverse ++ read) := by
  induction text generalizing read with
  | nil => rfl
  | cons c rest ih =>
    rw [List.forall_mem_cons] at h
    rw [wordsFrom_cons_of_not_white h.1, ih h.2, List.reverse_cons, List.append_assoc,
      List.singleton_append]

/-- A text without white space is a word. -/
lemma words_of_not_white {text : List Char} (hne : text ≠ [])
    (h : ∀ c ∈ text, isWhiteSpace c = false) : words text = [text] := by
  have hread : text.reverse.isEmpty = false := by simpa using hne
  rw [words, wordsFrom_of_not_white h, List.append_nil, closed, hread, List.reverse_reverse]
  rfl

lemma mem_wordsFrom {read text word : List Char} (hread : ∀ c ∈ read, isWhiteSpace c = false)
    (h : word ∈ wordsFrom read text) :
    word ≠ [] ∧ ∀ c ∈ word, isWhiteSpace c = false ∧ (c ∈ read ∨ c ∈ text) := by
  have hclosed : ∀ {read : List Char}, (∀ c ∈ read, isWhiteSpace c = false) →
      word ∈ closed read → word ≠ [] ∧ ∀ c ∈ word, isWhiteSpace c = false ∧ c ∈ read := by
    intro read hread hword
    cases read with
    | nil => cases hword
    | cons c rest =>
      rw [List.mem_singleton.mp hword]
      refine ⟨by simp, fun d hd => ?_⟩
      rw [List.mem_reverse] at hd
      exact ⟨hread d hd, hd⟩
  induction text generalizing read with
  | nil => exact (hclosed hread h).imp id fun hword c hc => (hword c hc).imp id Or.inl
  | cons d rest ih =>
    cases hd : isWhiteSpace d with
    | true =>
      rw [wordsFrom_cons_of_white hd] at h
      rcases List.mem_append.mp h with hfirst | hrest
      · exact (hclosed hread hfirst).imp id fun hword c hc => (hword c hc).imp id Or.inl
      · refine (ih (by simp) hrest).imp id fun hword c hc => (hword c hc).imp id ?_
        rintro (hnone | hc)
        · cases hnone
        · exact Or.inr (List.mem_cons_of_mem d hc)
    | false =>
      rw [wordsFrom_cons_of_not_white hd] at h
      refine (ih (List.forall_mem_cons.mpr ⟨hd, hread⟩) h).imp id fun hword c hc =>
        (hword c hc).imp id ?_
      rintro (hc | hc)
      · rcases List.mem_cons.mp hc with rfl | hc
        · exact Or.inr List.mem_cons_self
        · exact Or.inl hc
      · exact Or.inr (List.mem_cons_of_mem d hc)

/-- **A word is not empty and holds no white space**, only characters of the text. -/
theorem mem_words {text word : List Char} (h : word ∈ words text) :
    word ≠ [] ∧ ∀ c ∈ word, isWhiteSpace c = false ∧ c ∈ text :=
  (mem_wordsFrom (by simp) h).imp id fun hword c hc =>
    (hword c hc).imp id fun hmem => hmem.resolve_left (by simp)

/-- **A text is whole or cut at white space.**  What holds of texts without white space, and of a
text that is cut at white space if it holds of both parts, holds of every text. -/
theorem cut_induction {P : List Char → Prop}
    (whole : ∀ text, (∀ c ∈ text, isWhiteSpace c = false) → P text)
    (cut : ∀ before c after, isWhiteSpace c = true → P before → P after →
      P (before ++ c :: after)) (text : List Char) : P text := by
  induction hlength : text.length using Nat.strongRecOn generalizing text with
  | ind n ih =>
    subst hlength
    by_cases hwhite : ∃ c ∈ text, isWhiteSpace c = true
    · obtain ⟨c, hmem, hc⟩ := hwhite
      obtain ⟨before, after, rfl⟩ := List.append_of_mem hmem
      exact cut before c after hc (ih before.length (by simp) before rfl)
        (ih after.length (by simp; omega) after rfl)
    · exact whole text fun c hc => Bool.eq_false_iff.mpr fun hwhite' => hwhite ⟨c, hc, hwhite'⟩

/-- What passes to the parts of a text that is cut at white space passes to its words. -/
lemma of_mem_words {P : List Char → Prop}
    (hparts : ∀ before c after, isWhiteSpace c = true → P (before ++ c :: after) →
      P before ∧ P after) {text word : List Char} (h : P text) (hword : word ∈ words text) :
    P word := by
  induction text using cut_induction with
  | whole text hnot =>
    by_cases hne : text = []
    · rw [hne] at hword
      cases hword
    · rw [words_of_not_white hne hnot, List.mem_singleton] at hword
      rw [hword]
      exact h
  | cut before c after hc ihbefore ihafter =>
    obtain ⟨hbefore, hafter⟩ := hparts before c after hc h
    rw [words_append_cons hc, List.mem_append] at hword
    exact hword.elim (ihbefore hbefore) (ihafter hafter)

/-! ## Maps of texts -/

/-- Whether a map of texts maps the two sides of white space by themselves. -/
structure Piecewise (f : List Char → List Char) : Prop where
  nil : f [] = []
  append_cons : ∀ before c after, isWhiteSpace c = true →
    ∃ blank, isWhiteSpace blank = true ∧ f (before ++ c :: after) = f before ++ blank :: f after

/-- **A piecewise map is told word by word.** -/
theorem Piecewise.words {f : List Char → List Char} (hf : Piecewise f) (text : List Char) :
    words (f text) = (Text.words text).flatMap fun word => Text.words (f word) := by
  induction text using cut_induction with
  | whole text hnot =>
    by_cases hne : text = []
    · rw [hne, hf.nil]
      rfl
    · rw [words_of_not_white hne hnot, List.flatMap_singleton]
  | cut before c after hc ihbefore ihafter =>
    obtain ⟨blank, hblank, hmap⟩ := hf.append_cons before c after hc
    rw [hmap, words_append_cons hblank, words_append_cons hc, List.flatMap_append, ihbefore,
      ihafter]

lemma Piecewise.comp {f g : List Char → List Char} (hf : Piecewise f) (hg : Piecewise g) :
    Piecewise fun text => f (g text) where
  nil := by rw [hg.nil, hf.nil]
  append_cons before c after hc := by
    obtain ⟨blank, hblank, hinner⟩ := hg.append_cons before c after hc
    obtain ⟨other, hother, houter⟩ := hf.append_cons (g before) blank (g after) hblank
    exact ⟨other, hother, by rw [hinner, houter]⟩

/-- A map of characters that keeps white space is piecewise. -/
lemma piecewise_map {f : Char → Char}
    (hf : ∀ c, isWhiteSpace c = true → isWhiteSpace (f c) = true) : Piecewise (List.map f) where
  nil := rfl
  append_cons before c after hc := ⟨f c, hf c hc, by rw [List.map_append, List.map_cons]⟩

end Retrieval.Text

import Mathlib.Tactic.Common
import Retrieval.Text.Words
import Retrieval.Url.Target

/-!
# Parts of a text

A text is cut at a character by scanning it, and white space is trimmed by scanning from both ends.
Both are told here without a scan.  The parts of a text are the only texts without the character
that, written one after the other with the character between them, are the text (`splitAt_eq_iff`);
and what is left after trimming is the only text that begins and ends with no white space and stands
in the text with nothing but white space around it (`trim_eq_iff`).
-/

namespace Retrieval.Text

open Unicode (isWhiteSpace)
open Url (splitAt splitFrom)

/-! ## Cutting -/

/-- Whether a text is made of parts with a character between them. -/
structure Separated (mark : Char) (text : List Char) (parts : List (List Char)) : Prop where
  ne_nil : parts ≠ []
  notMem : ∀ part ∈ parts, mark ∉ part
  text_eq : [mark].intercalate parts = text

lemma splitFrom_eq (mark : Char) (read text : List Char) :
    splitFrom mark read text = (text.splitOn mark).modifyHead (read.reverse ++ ·) := by
  induction text generalizing read with
  | nil => simp [splitFrom]
  | cons c rest ih =>
    rw [splitFrom, List.splitOn_cons_eq_if_modifyHead]
    by_cases hc : c = mark
    · have hrest : splitFrom mark [] rest = (rest.splitOn mark).modifyHead id := ih []
      simp [hc, hrest]
    · simp [hc, ih, List.modifyHead_modifyHead, Function.comp_def]

/-- Cutting is what the library calls splitting. -/
lemma splitAt_eq (mark : Char) (text : List Char) : splitAt mark text = text.splitOn mark := by
  have hsplit : splitFrom mark [] text = (text.splitOn mark).modifyHead id :=
    splitFrom_eq mark [] text
  rw [splitAt, hsplit, List.modifyHead_id, id]

lemma notMem_of_mem_splitOn {mark : Char} {text part : List Char}
    (h : part ∈ text.splitOn mark) : mark ∉ part := by
  induction text generalizing part with
  | nil => simp_all
  | cons c rest ih =>
    obtain ⟨first, others, hsplit⟩ := List.exists_cons_of_ne_nil (List.splitOn_ne_nil mark rest)
    rw [List.splitOn_cons_eq_if_modifyHead] at h
    by_cases hc : c = mark
    · rw [if_pos (by simpa using hc), List.mem_cons] at h
      rcases h with rfl | hrest
      · exact List.not_mem_nil
      · exact ih hrest
    · rw [if_neg (by simpa using hc), hsplit, List.modifyHead_cons, List.mem_cons] at h
      rcases h with rfl | hothers
      · rw [List.mem_cons, not_or]
        exact ⟨Ne.symm hc, ih (hsplit ▸ List.mem_cons_self)⟩
      · exact ih (hsplit ▸ List.mem_cons_of_mem first hothers)

/-- **The parts of a text** are without the cut and give it back. -/
theorem splitAt_eq_iff {mark : Char} {text : List Char} {parts : List (List Char)} :
    splitAt mark text = parts ↔ Separated mark text parts := by
  rw [splitAt_eq]
  constructor
  · rintro rfl
    exact ⟨List.splitOn_ne_nil _ _, fun part => notMem_of_mem_splitOn,
      List.intercalate_splitOn mark⟩
  · rintro ⟨hne, hnot, rfl⟩
    exact List.splitOn_intercalate mark hnot hne

/-! ## Trimming -/

/-- Whether a text is the middle of another one, with white space around it and none at its own
ends. -/
structure Trims (text middle : List Char) : Prop where
  around : ∃ before after, text = before ++ middle ++ after ∧
    (∀ c ∈ before, isWhiteSpace c = true) ∧ ∀ c ∈ after, isWhiteSpace c = true
  head : ∀ c ∈ middle.head?, isWhiteSpace c = false
  last : ∀ c ∈ middle.getLast?, isWhiteSpace c = false

/-- The white space in front of a text that begins with none is dropped, and nothing else. -/
lemma dropWhile_eq_iff {text rest : List Char} :
    text.dropWhile isWhiteSpace = rest ↔
      (∃ before, text = before ++ rest ∧ ∀ c ∈ before, isWhiteSpace c = true) ∧
        ∀ c ∈ rest.head?, isWhiteSpace c = false := by
  constructor
  · rintro rfl
    refine ⟨⟨text.takeWhile isWhiteSpace, List.takeWhile_append_dropWhile.symm, ?_⟩, ?_⟩
    · exact List.all_eq_true.mp List.all_takeWhile
    · intro c hc
      have hstops := List.head?_dropWhile_not isWhiteSpace text
      rw [Option.mem_def.mp hc] at hstops
      exact hstops
  · rintro ⟨⟨before, rfl, hbefore⟩, hhead⟩
    rw [List.dropWhile_append_of_pos hbefore]
    cases rest with
    | nil => rfl
    | cons c rest => exact List.dropWhile_cons_of_neg (by simp [hhead c rfl])

/-- What is left of a text is its middle if the white space behind the middle is all that follows
it once the white space in front of it is dropped. -/
lemma trim_eq_iff_dropWhile {text middle : List Char} :
    trim text = middle ↔
      (∃ after, text.dropWhile isWhiteSpace = middle ++ after ∧
        ∀ c ∈ after, isWhiteSpace c = true) ∧
        ∀ c ∈ middle.getLast?, isWhiteSpace c = false := by
  rw [trim, List.reverse_eq_iff, dropWhile_eq_iff, List.head?_reverse]
  refine and_congr_left fun _ => ⟨?_, ?_⟩
  · rintro ⟨after, htext, hafter⟩
    refine ⟨after.reverse, ?_, fun c hc => hafter c (List.mem_reverse.mp hc)⟩
    rw [← List.reverse_reverse (text.dropWhile isWhiteSpace), htext, List.reverse_append,
      List.reverse_reverse]
  · rintro ⟨after, htext, hafter⟩
    refine ⟨after.reverse, ?_, fun c hc => hafter c (List.mem_reverse.mp hc)⟩
    rw [htext, List.reverse_append]

/-- **What trimming leaves** has white space around it and none at its ends. -/
theorem trim_eq_iff {text middle : List Char} : trim text = middle ↔ Trims text middle := by
  rw [trim_eq_iff_dropWhile]
  constructor
  · rintro ⟨⟨after, htext, hafter⟩, hlast⟩
    obtain ⟨⟨before, hwhole, hbefore⟩, hhead⟩ := dropWhile_eq_iff.mp htext
    refine ⟨⟨before, after, ?_, hbefore, hafter⟩, fun c hc => hhead c ?_, hlast⟩
    · rw [hwhole, List.append_assoc]
    · rw [List.head?_append, Option.mem_def.mp hc]
      rfl
  · rintro ⟨⟨before, after, rfl, hbefore, hafter⟩, hhead, hlast⟩
    refine ⟨?_, hlast⟩
    cases middle with
    | nil =>
      -- the whole text is white space, so nothing stands behind the empty middle
      refine ⟨[], dropWhile_eq_iff.mpr ⟨⟨before ++ after, by simp, ?_⟩, by simp⟩, by simp⟩
      exact List.forall_mem_append.mpr ⟨hbefore, hafter⟩
    | cons c rest =>
      refine ⟨after, dropWhile_eq_iff.mpr ⟨⟨before, ?_, hbefore⟩, hhead⟩, hafter⟩
      rw [List.append_assoc]

end Retrieval.Text

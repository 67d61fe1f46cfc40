import Mathlib.Tactic.Common
import Retrieval.Unicode.Decomposition

/-!
# The entries of the table of decompositions are regular

What normalization needs of the table is that it leaves blanks and the characters of the basic
alphabet where they are.  `Decomposition.isRegular` says so of one entry, and the three stretches of
the table are read and checked entry by entry (`isRegular_of_mem`).
-/

namespace Retrieval.Unicode

/-- Whether a step is one that the standard allows: characters below U+00A0 do not decompose, white
space decomposes into white space, and no character composes with white space or with a character
below U+00A0 after it. -/
def Decomposition.isRegular (source : Char) (step : Decomposition) : Bool :=
  0xA0 ≤ source.toNat &&
  (!isWhiteSpace source ||
    match step.target with
    | [blank] => isWhiteSpace blank
    | _ => false) &&
  match step with
  | ⟨true, [first, second]⟩ => !isWhiteSpace first && !isWhiteSpace second && 0xA0 ≤ second.toNat
  | _ => true

/-- Whether all entries of a stretch of the table are regular. -/
def IsRegularText (text : String) : Prop :=
  ∀ entry ∈ readDecompositions {} text.toList, entry.2.isRegular entry.1 = true

-- The characters are given as a list, since evaluating `String.toList` would decode octets.
lemma isRegularText_ofList {chars : List Char}
    (h : (readDecompositions {} chars).all (fun entry => entry.2.isRegular entry.1) = true) :
    IsRegularText (String.ofList chars) := by
  rw [IsRegularText, String.toList_ofList]
  exact List.all_eq_true.mp h

-- The texts are checked one by one and the stretches apart, so that no step holds much of the table.
set_option maxRecDepth 10000 in
lemma isRegularText_of_low : ∀ text ∈ lowDecompositionTexts, IsRegularText text := by
  unfold lowDecompositionTexts
  repeat' first
    | exact List.forall_mem_nil _
    | refine List.forall_mem_cons.mpr ⟨isRegularText_ofList ?_, ?_⟩
  all_goals decide +kernel

set_option maxRecDepth 10000 in
lemma isRegularText_of_form : ∀ text ∈ formDecompositionTexts, IsRegularText text := by
  unfold formDecompositionTexts
  repeat' first
    | exact List.forall_mem_nil _
    | refine List.forall_mem_cons.mpr ⟨isRegularText_ofList ?_, ?_⟩
  all_goals decide +kernel

set_option maxRecDepth 10000 in
lemma isRegularText_of_high : ∀ text ∈ highDecompositionTexts, IsRegularText text := by
  unfold highDecompositionTexts
  repeat' first
    | exact List.forall_mem_nil _
    | refine List.forall_mem_cons.mpr ⟨isRegularText_ofList ?_, ?_⟩
  all_goals decide +kernel

/-- **Every entry of the table is regular.** -/
theorem isRegular_of_mem {source : Char} {step : Decomposition}
    (h : (source, step) ∈ decompositions) : step.isRegular source = true := by
  obtain ⟨text, htext, hentry⟩ := List.mem_flatMap.mp h
  have hregular : IsRegularText text := by
    rcases List.mem_append.mp htext with hfirst | hhigh
    · rcases List.mem_append.mp hfirst with hlow | hform
      · exact isRegularText_of_low text hlow
      · exact isRegularText_of_form text hform
    · exact isRegularText_of_high text hhigh
  exact hregular _ hentry

end Retrieval.Unicode

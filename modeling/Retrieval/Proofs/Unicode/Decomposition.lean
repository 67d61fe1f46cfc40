import Mathlib.Tactic.Common
import Retrieval.Proofs.Unicode.Cut
import Retrieval.Proofs.Unicode.Regularity

/-!
# What the table of decompositions says

Every step of the table is regular, and this is all that is asked of it here.  So characters below
U+00A0 are their own decompositions, white space decomposes into one white space character
(`exists_decompose_of_white`), and neither white space nor a character below U+00A0 is taken up into
a composite (`compose?_eq_none`).
-/

namespace Retrieval.Unicode

/-! ## Entries -/

/-- What a map of a list holds is in the list. -/
lemma mem_of_getElem? {α β : Type} [BEq α] [Hashable α] [LawfulBEq α] [LawfulHashable α]
    {map : Std.HashMap α β} {entries : List (α × β)} (hmap : map = .ofList entries) {key : α}
    {value : β} (h : map[key]? = some value) : (key, value) ∈ entries := by
  rw [hmap, Std.HashMap.ofList_eq_insertMany_empty, Std.HashMap.getElem?_insertMany_list,
    Std.HashMap.getElem?_empty, Option.or_none, List.findSomeRev?_eq_findSome?_reverse] at h
  obtain ⟨⟨other, kept⟩, hmem, hkept⟩ := List.exists_of_findSome?_eq_some h
  obtain ⟨hkey, hvalue⟩ := (ite_eq_iff.mp hkept).resolve_right (by simp)
  rw [← eq_of_beq hkey, ← Option.some.inj hvalue]
  exact List.mem_reverse.mp hmem

lemma isRegular_of_decompositionMap {c : Char} {step : Decomposition}
    (h : decompositionMap[c.toNat]? = some step) : step.isRegular c = true := by
  obtain ⟨⟨source, kept⟩, hmem, hentry⟩ := List.mem_map.mp (mem_of_getElem? decompositionMap_eq h)
  obtain ⟨hsource, rfl⟩ := Prod.mk.inj hentry
  rw [← Char.toNat_inj.mp hsource]
  exact isRegular_of_mem hmem

/-! ## Decomposition -/

/-- Where white space stands among the code points. -/
lemma toNat_of_isWhiteSpace {c : Char} (h : isWhiteSpace c = true) :
    c.toNat ≤ 0xA0 ∨ 0x1680 ≤ c.toNat ∧ c.toNat ≤ 0x3000 := by
  obtain ⟨range, hrange, hfirst, hlast⟩ := Ranges.exists_of_coversPoint h
  have hwithin : ∀ range ∈ whiteSpaceRanges,
      range.2 ≤ 0xA0 ∨ 0x1680 ≤ range.1 ∧ range.2 ≤ 0x3000 := by decide
  have := hwithin range hrange
  omega

variable {step? : Char → Option Decomposition}

lemma decomposeWithin_of_none {c : Char} (h : step? c = none) (depth : Nat) :
    decomposeWithin step? depth c = [c] := by
  cases depth with
  | zero => rfl
  | succ depth => simp only [decomposeWithin, h]

lemma decomposeWithin_of_some {c : Char} {step : Decomposition} (h : step? c = some step)
    (depth : Nat) : decomposeWithin step? (depth + 1) c
      = step.target.flatMap (decomposeWithin step? depth) := by
  simp only [decomposeWithin, h]

lemma decomposeWithin_of_lt (hstep? : ∀ c step, step? c = some step → step.isRegular c = true)
    (depth : Nat) {c : Char} (h : c.toNat < 0xA0) : decomposeWithin step? depth c = [c] := by
  refine decomposeWithin_of_none ?_ depth
  by_contra hsome
  obtain ⟨step, hstep⟩ := Option.ne_none_iff_exists'.mp hsome
  have hregular := hstep? c step hstep
  simp only [Decomposition.isRegular, Bool.and_eq_true, decide_eq_true_eq] at hregular
  omega

lemma exists_decomposeWithin_of_white
    (hstep? : ∀ c step, step? c = some step → step.isRegular c = true) (depth : Nat) {c : Char}
    (h : isWhiteSpace c = true) :
    ∃ blank, isWhiteSpace blank = true ∧ decomposeWithin step? depth c = [blank] := by
  induction depth generalizing c with
  | zero => exact ⟨c, h, rfl⟩
  | succ depth ih =>
    cases hstep : step? c with
    | none => exact ⟨c, h, decomposeWithin_of_none hstep _⟩
    | some step =>
      have hregular := hstep? c step hstep
      simp only [Decomposition.isRegular, Bool.and_eq_true, h, Bool.not_true, Bool.false_or]
        at hregular
      obtain ⟨⟨-, htarget⟩, -⟩ := hregular
      split at htarget
      · rename_i next hnext
        obtain ⟨blank, hblank, hwithin⟩ := ih htarget
        refine ⟨blank, hblank, ?_⟩
        rw [decomposeWithin_of_some hstep, hnext, List.flatMap_singleton, hwithin]
      · cases htarget

lemma decompose_eq_within {c : Char} (h : c.toNat ≤ 0x3000) :
    decompose c = decomposeWithin (fun c => decompositionMap[c.toNat]?) 8 c := by
  have hnone : Hangul.decompose? c = none := by
    rw [Hangul.decompose?, if_neg]
    simp only [Hangul.syllableBase]
    omega
  rw [decompose, hnone]

/-- A character below U+00A0 is its own decomposition. -/
lemma decompose_of_lt {c : Char} (h : c.toNat < 0xA0) : decompose c = [c] := by
  rw [decompose_eq_within (by omega)]
  exact decomposeWithin_of_lt (fun _ _ => isRegular_of_decompositionMap) 8 h

/-- **White space decomposes into white space.** -/
theorem exists_decompose_of_white {c : Char} (h : isWhiteSpace c = true) :
    ∃ blank, isWhiteSpace blank = true ∧ decompose c = [blank] := by
  have hpoint := toNat_of_isWhiteSpace h
  rw [decompose_eq_within (by omega)]
  exact exists_decomposeWithin_of_white (fun _ _ => isRegular_of_decompositionMap) 8 h

/-! ## Composition -/

/-- What is never composed: white space with anything, and anything with a character below U+00A0
behind it. -/
def KeptApart (first second : Char) : Prop :=
  isWhiteSpace first = true ∨ isWhiteSpace second = true ∨ second.toNat < 0xA0

lemma hangul_compose?_eq_none {first second : Char} (h : KeptApart first second) :
    Hangul.compose? first second = none := by
  have hpoints : (first.toNat ≤ 0xA0 ∨ 0x1680 ≤ first.toNat ∧ first.toNat ≤ 0x3000) ∨
      second.toNat ≤ 0xA0 ∨ 0x1680 ≤ second.toNat := by
    rcases h with hfirst | hsecond | hlow
    · exact Or.inl (toNat_of_isWhiteSpace hfirst)
    · exact Or.inr ((toNat_of_isWhiteSpace hsecond).imp id And.left)
    · exact Or.inr (Or.inl (by omega))
  have hopen : ¬ (Hangul.leadBase ≤ first.toNat ∧
      first.toNat < Hangul.leadBase + Hangul.leadCount ∧ Hangul.vowelBase ≤ second.toNat ∧
      second.toNat < Hangul.vowelBase + Hangul.vowelCount) := by
    simp only [Hangul.leadBase, Hangul.leadCount, Hangul.vowelBase, Hangul.vowelCount]
    omega
  have hclosed : ¬ (Hangul.syllableBase ≤ first.toNat ∧ first.toNat < Hangul.syllableBase
      + Hangul.leadCount * Hangul.vowelCount * Hangul.tailCount ∧
      (first.toNat - Hangul.syllableBase) % Hangul.tailCount = 0 ∧
      Hangul.tailBase < second.toNat ∧ second.toNat < Hangul.tailBase + Hangul.tailCount) := by
    simp only [Hangul.syllableBase, Hangul.tailBase, Hangul.tailCount]
    omega
  simp only [Hangul.compose?, hopen, hclosed, if_false]

lemma not_keptApart_of_composite? {source first second composite : Char} {step : Decomposition}
    (hregular : step.isRegular source = true)
    (h : composite? source step = some ((first.toNat, second.toNat), composite)) :
    ¬ KeptApart first second := by
  unfold composite? at h
  split at h
  · rename_i a b
    obtain ⟨-, hpair⟩ := (ite_eq_iff.mp h).resolve_right (by simp)
    simp only [Option.some.injEq, Prod.mk.injEq, Char.toNat_inj] at hpair
    obtain ⟨⟨rfl, rfl⟩, -⟩ := hpair
    simp only [Decomposition.isRegular, Bool.and_eq_true, Bool.not_eq_true',
      decide_eq_true_eq] at hregular
    obtain ⟨-, ⟨hfirst, hsecond⟩, hhigh⟩ := hregular
    rintro (hwhite | hwhite | hlow)
    · rw [hfirst] at hwhite
      cases hwhite
    · rw [hsecond] at hwhite
      cases hwhite
    · omega
  · cases h

/-- **White space and characters below U+00A0 are not composed.** -/
theorem compose?_eq_none {first second : Char} (h : KeptApart first second) :
    compose? first second = none := by
  rw [compose?, hangul_compose?_eq_none h]
  cases hcomposite : compositeMap[(first.toNat, second.toNat)]? with
  | none => rfl
  | some composite =>
    obtain ⟨⟨source, step⟩, hmem, hentry⟩ :=
      List.mem_filterMap.mp (mem_of_getElem? compositeMap_eq hcomposite)
    have hapart := not_keptApart_of_composite? (isRegular_of_mem hmem) hentry
    exact absurd h hapart

/-! ## Classes -/

lemma combiningClassIn_eq_zero {runs : List (Nat × Nat × Nat)} {n : Nat}
    (h : ∀ run ∈ runs, n < run.1 ∨ run.2.1 < n) : combiningClassIn runs n = 0 := by
  induction runs with
  | nil => rfl
  | cons run rest ih =>
    rw [List.forall_mem_cons] at h
    obtain ⟨first, last, value⟩ := run
    rw [combiningClassIn, ih h.2]
    have hrun := h.1
    split_ifs with hfirst hlast
    · rfl
    · simp only at hrun
      omega
    · rfl

lemma combiningRuns_apart : ∀ run ∈ combiningRuns, 0xA0 ≤ run.1 ∧
    ∀ range ∈ whiteSpaceRanges, range.2 < run.1 ∨ run.2.1 < range.1 := by
  decide +kernel

/-- White space is no mark. -/
lemma combiningClass_of_white {c : Char} (h : isWhiteSpace c = true) : combiningClass c = 0 := by
  obtain ⟨range, hrange, hfirst, hlast⟩ := Ranges.exists_of_coversPoint h
  refine combiningClassIn_eq_zero fun run hrun => ?_
  have := (combiningRuns_apart run hrun).2 range hrange
  omega

/-- No character below U+00A0 is a mark. -/
lemma combiningClass_of_lt {c : Char} (h : c.toNat < 0xA0) : combiningClass c = 0 := by
  refine combiningClassIn_eq_zero fun run hrun => ?_
  have := (combiningRuns_apart run hrun).1
  omega

end Retrieval.Unicode

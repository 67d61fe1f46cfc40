import Mathlib.Data.List.Infix
import Mathlib.Data.List.TakeDrop
import Mathlib.Logic.Function.Iterate
import Mathlib.Logic.Relation
import Mathlib.Tactic.Common
import Retrieval.Proofs.Text.DigitGap

/-!
# Joining closes all gaps

A gap is white space right behind one digit and right before another (`IsGap`).  To close a gap is
one step on texts (`ClosesGap`), and a sweep takes such steps from left to right: it closes the
first gap and goes on behind its second digit (`closeGaps_of_first`), so a text stays as it is
exactly if it has no gap (`closeGaps_eq_self_iff`).  As every step shortens the text, repeated
sweeps come to an end (`exists_rounds`), and there no gap is left.

That the end is the text without its gaps, and that any other order of steps comes to the same end,
both follow from an invariant.  Whether a character lies in a gap is told by the nearest characters
on both sides that are no white space, and a step does not change these.  So `withoutGaps`, the text
without the characters in gaps, is the same all along the way (`withoutGaps_of_steps`), and it is
the text itself where no gap is left.
-/

namespace Retrieval.Text

open Relation (ReflTransGen)
open Unicode (isDecimalDigit isWhiteSpace)

/-! ## Gaps -/

/-- White space between two digits. -/
structure IsGap (left : Char) (gap : List Char) (right : Char) : Prop where
  left : isDecimalDigit left = true
  ne_nil : gap ≠ []
  white : ∀ c ∈ gap, isWhiteSpace c = true
  right : isDecimalDigit right = true

/-- The texts before and after a gap is closed. -/
inductive ClosesGap : List Char → List Char → Prop
  | close (before after : List Char) {left right : Char} {gap : List Char} :
    IsGap left gap right →
    ClosesGap (before ++ left :: (gap ++ right :: after)) (before ++ left :: right :: after)

/-- Whether a text has a gap. -/
def HasGap (text : List Char) : Prop :=
  ∃ next, ClosesGap text next

lemma hasGap_iff {text : List Char} : HasGap text ↔
    ∃ before left gap right after, text = before ++ left :: (gap ++ right :: after) ∧
      IsGap left gap right := by
  constructor
  · rintro ⟨_, ⟨before, after, hgap⟩⟩
    exact ⟨before, _, _, _, after, rfl, hgap⟩
  · rintro ⟨before, left, gap, right, after, rfl, hgap⟩
    exact ⟨_, .close before after hgap⟩

/-- A digit is no white space. -/
lemma not_white_of_digit {c : Char} (h : isDecimalDigit c = true) : isWhiteSpace c = false := by
  cases hc : isWhiteSpace c with
  | false => rfl
  | true => rw [not_digit_of_white hc] at h; cases h

lemma ClosesGap.append_left {text next : List Char} (h : ClosesGap text next)
    (front : List Char) : ClosesGap (front ++ text) (front ++ next) := by
  cases h with
  | close before after hgap =>
    rw [← List.append_assoc, ← List.append_assoc]
    exact .close _ after hgap

lemma HasGap.append_left {text : List Char} (h : HasGap text) (front : List Char) :
    HasGap (front ++ text) := by
  obtain ⟨next, hnext⟩ := h
  exact ⟨_, hnext.append_left front⟩

/-! ## One sweep -/

/-- Up to its last digit the scan goes through a part that it leaves whole. -/
lemma closeGapsFrom_of_whole {gap? : Option (List Char)} {before : List Char} {left : Char}
    (hleft : isDecimalDigit left = true) (h : Whole gap? (before ++ [left])) (rest : List Char) :
    closeGapsFrom gap? (before ++ left :: rest)
      = (gap?.getD []).reverse ++ before ++ left :: closeGapsFrom (some []) rest := by
  have hwhite := not_white_of_digit hleft
  induction before generalizing gap? with
  | nil =>
    cases gap? with
    | none => simp [closeGapsFrom, hleft]
    | some gap =>
      obtain ⟨rfl, -⟩ := (whole_cons_digit hwhite hleft).mp h
      simp [closeGapsFrom, hwhite, hleft]
  | cons c before ih =>
    rw [List.cons_append] at h
    cases gap? with
    | none =>
      rw [whole_cons_none] at h
      rw [List.cons_append, closeGapsFrom, ih h]
      split_ifs <;> simp
    | some gap =>
      cases hc : isWhiteSpace c with
      | true =>
        rw [List.cons_append, closeGapsFrom, if_pos hc, ih ((whole_cons_white hc).mp h)]
        simp
      | false =>
        cases hdigit : isDecimalDigit c with
        | true =>
          obtain ⟨rfl, hrest⟩ := (whole_cons_digit hc hdigit).mp h
          rw [List.cons_append, closeGapsFrom, hc, hdigit]
          simp [ih hrest]
        | false =>
          rw [List.cons_append, closeGapsFrom, hc, hdigit]
          simp [ih ((whole_cons_other hc hdigit).mp h)]

/-- Behind a digit the scan closes the gap. -/
lemma closeGapsFrom_of_isGap {left right : Char} {gap : List Char} (h : IsGap left gap right)
    (after : List Char) :
    closeGapsFrom (some []) (gap ++ right :: after) = right :: closeGapsFrom none after := by
  have hblank : ∀ {blank pending : List Char}, (∀ c ∈ blank, isWhiteSpace c = true) →
      closeGapsFrom (some pending) (blank ++ right :: after)
        = closeGapsFrom (some (blank.reverse ++ pending)) (right :: after) := by
    intro blank
    induction blank with
    | nil => exact fun _ => rfl
    | cons c blank ih =>
      intro pending hwhite
      rw [List.forall_mem_cons] at hwhite
      rw [List.cons_append, closeGapsFrom, if_pos hwhite.1, ih hwhite.2, List.reverse_cons,
        List.append_assoc, List.singleton_append]
  have hnonempty : gap.reverse.isEmpty = false := by simpa using h.ne_nil
  rw [hblank h.white, List.append_nil, closeGapsFrom, not_white_of_digit h.right, h.right,
    hnonempty]
  rfl

/-- A text without gaps is left whole; a gap that is pending counts as part of the text. -/
lemma whole_of_not_hasGap (text : List Char) :
    (¬ HasGap text → Whole none text) ∧
      ∀ left gap, isDecimalDigit left = true → (∀ c ∈ gap, isWhiteSpace c = true) →
        ¬ HasGap (left :: (gap.reverse ++ text)) → Whole (some gap) text := by
  induction text with
  | nil => exact ⟨fun _ => rfl, fun left gap _ _ _ => by simp [Whole, closeGapsFrom]⟩
  | cons c rest ih =>
    have hrest : ∀ front, ¬ HasGap (front ++ c :: rest) → ¬ HasGap rest := by
      intro front hnone hgap
      exact hnone ((hgap.append_left [c]).append_left front)
    have hdigit : isDecimalDigit c = true → ∀ front, ¬ HasGap (front ++ c :: rest) →
        Whole (some []) rest := by
      intro hc front hnone
      exact ih.2 c [] hc (by simp) fun hgap => hnone (hgap.append_left front)
    constructor
    · intro hnone
      rw [whole_cons_none]
      split_ifs with hc
      · exact hdigit hc [] hnone
      · exact ih.1 (hrest [] hnone)
    · intro left gap hleft hwhite hnone
      cases hc : isWhiteSpace c with
      | true =>
        rw [whole_cons_white hc]
        refine ih.2 left (c :: gap) hleft (List.forall_mem_cons.mpr ⟨hc, hwhite⟩) ?_
        rwa [List.reverse_cons, List.append_assoc, List.singleton_append]
      | false =>
        rw [← List.cons_append] at hnone
        cases hd : isDecimalDigit c with
        | true =>
          rw [whole_cons_digit hc hd]
          refine ⟨?_, hdigit hd _ hnone⟩
          by_contra hne
          refine hnone (hasGap_iff.mpr ⟨[], left, gap.reverse, c, rest, rfl, hleft, ?_, ?_, hd⟩)
          · simpa using hne
          · simpa using hwhite
        | false =>
          rw [whole_cons_other hc hd]
          exact ih.1 (hrest _ hnone)

/-- **A sweep changes a text exactly if the text has a gap.** -/
theorem closeGaps_eq_self_iff {text : List Char} : closeGaps text = text ↔ ¬ HasGap text := by
  refine ⟨fun h hsome => ?_, (whole_of_not_hasGap text).1⟩
  obtain ⟨before, left, gap, right, after, rfl, hgap⟩ := hasGap_iff.mp hsome
  have hwhole : Whole none (before ++ [left]) := by
    obtain ⟨blank, others, hblanks⟩ := List.exists_cons_of_ne_nil hgap.ne_nil
    have htext : Whole none (before ++ left :: (gap ++ right :: after)) := h
    rw [hblanks, ← List.singleton_append, ← List.append_assoc, List.cons_append] at htext
    exact (htext.of_append_cons (hgap.white blank (by rw [hblanks]; simp))).1
  rw [closeGaps, closeGapsFrom_of_whole hgap.left hwhole, closeGapsFrom_of_isGap hgap] at h
  have hlength := congrArg List.length h
  have hshort := (closeGapsFrom_sublist none after).length_le
  have hpositive := List.length_pos_of_ne_nil hgap.ne_nil
  simp at hlength hshort
  omega

/-- **A sweep closes the first gap, and goes on behind its second digit.** -/
theorem closeGaps_of_first {before after : List Char} {left right : Char} {gap : List Char}
    (hgap : IsGap left gap right) (hfirst : ¬ HasGap (before ++ [left])) :
    closeGaps (before ++ left :: (gap ++ right :: after))
      = before ++ left :: right :: closeGaps after := by
  have hwhole : Whole none (before ++ [left]) := closeGaps_eq_self_iff.mpr hfirst
  rw [closeGaps, closeGapsFrom_of_whole hgap.left hwhole, closeGapsFrom_of_isGap hgap]
  rfl

/-- A text with a gap has a first one. -/
lemma HasGap.exists_first {text : List Char} (h : HasGap text) :
    ∃ before left gap right after, text = before ++ left :: (gap ++ right :: after) ∧
      IsGap left gap right ∧ ¬ HasGap (before ++ [left]) := by
  obtain ⟨before, left, gap, right, after, htext, hgap⟩ := hasGap_iff.mp h
  induction hlength : before.length using Nat.strongRecOn
    generalizing before left gap right after with
  | ind n ih =>
    subst hlength
    by_cases hearlier : HasGap (before ++ [left])
    · obtain ⟨front, first, blank, second, others, hfront, hblank⟩ := hasGap_iff.mp hearlier
      have hlength := congrArg List.length hfront
      simp only [List.length_append, List.length_cons, List.length_nil] at hlength
      have hpositive := List.length_pos_of_ne_nil hblank.ne_nil
      refine ih front.length (by omega) front first blank second (others ++ (gap ++ right :: after))
        ?_ hblank rfl
      rw [htext, ← List.singleton_append, ← List.append_assoc, hfront]
      simp only [List.append_assoc, List.cons_append]
    · exact ⟨before, left, gap, right, after, htext, hgap, hearlier⟩

/-- A sweep closes one gap after the other. -/
lemma steps_closeGaps (text : List Char) : ReflTransGen ClosesGap text (closeGaps text) := by
  induction hlength : text.length using Nat.strongRecOn generalizing text with
  | ind n ih =>
    subst hlength
    by_cases h : HasGap text
    · obtain ⟨before, left, gap, right, after, rfl, hgap, hfirst⟩ := h.exists_first
      rw [closeGaps_of_first hgap hfirst]
      have hafter := ih after.length (by simp only [List.length_append, List.length_cons]; omega)
        after rfl
      have hrest := hafter.lift (before ++ [left, right] ++ ·) fun _ _ hstep =>
        hstep.append_left (before ++ [left, right])
      simp only [List.append_assoc, List.cons_append, List.nil_append] at hrest
      exact hrest.head (.close before after hgap)
    · rw [closeGaps_eq_self_iff.mpr h]

/-! ## All sweeps -/

/-- **The sweeps come to an end.**  Within the limit of the length they come to a text that a sweep
does not change, and that is where they stop. -/
lemma exists_rounds {limit : Nat} {text : List Char} (hlimit : text.length ≤ limit) :
    ∃ rounds ≤ limit, sweep limit text = closeGaps^[rounds] text ∧
      ∀ round, closeGaps (closeGaps^[round] text) = closeGaps^[round] text ↔ rounds ≤ round := by
  induction limit generalizing text with
  | zero =>
    obtain rfl := List.eq_nil_of_length_eq_zero (Nat.le_zero.mp hlimit)
    refine ⟨0, Nat.le_refl 0, rfl, fun round => ?_⟩
    rw [Function.iterate_fixed (show closeGaps [] = [] from rfl)]
    simp [closeGaps, closeGapsFrom]
  | succ limit ih =>
    rw [sweep]
    by_cases h : closeGaps text = text
    · refine ⟨0, Nat.zero_le _, if_pos h, fun round => ?_⟩
      rw [Function.iterate_fixed h]
      exact iff_of_true h (Nat.zero_le round)
    · have hsublist := closeGapsFrom_sublist none text
      have hshorter : (closeGaps text).length < text.length := by
        refine lt_of_le_of_ne hsublist.length_le fun hsame => h ?_
        exact hsublist.eq_of_length hsame
      obtain ⟨rounds, hrounds, hend, hfixed⟩ := ih (show (closeGaps text).length ≤ limit by omega)
      refine ⟨rounds + 1, Nat.succ_le_succ hrounds, ?_, fun round => ?_⟩
      · rw [if_neg h, hend, Function.iterate_succ_apply]
      · cases round with
        | zero => exact iff_of_false h (Nat.not_succ_le_zero rounds)
        | succ round => rw [Function.iterate_succ_apply, hfixed, Nat.succ_le_succ_iff]

lemma not_hasGap_joinNumbers (text : List Char) : ¬ HasGap (joinNumbers text) := by
  obtain ⟨rounds, -, hend, hfixed⟩ := exists_rounds (Nat.le_refl text.length)
  rw [joinNumbers, hend, ← closeGaps_eq_self_iff, hfixed]

lemma steps_joinNumbers (text : List Char) : ReflTransGen ClosesGap text (joinNumbers text) := by
  obtain ⟨rounds, -, hend, -⟩ := exists_rounds (Nat.le_refl text.length)
  rw [joinNumbers, hend]
  clear hend
  induction rounds with
  | zero => exact .refl
  | succ rounds ih =>
    rw [Function.iterate_succ_apply']
    exact ih.trans (steps_closeGaps _)

/-! ## Characters in gaps -/

/-- Whether the first character that is no white space is a digit. -/
def meetsDigit : List Char → Bool
  | [] => false
  | c :: rest => if isWhiteSpace c then meetsDigit rest else isDecimalDigit c

lemma meetsDigit_append {blank rest : List Char} (h : ∀ c ∈ blank, isWhiteSpace c = true) :
    meetsDigit (blank ++ rest) = meetsDigit rest := by
  induction blank with
  | nil => rfl
  | cons c blank ih =>
    rw [List.forall_mem_cons] at h
    rw [List.cons_append, meetsDigit, if_pos h.1, ih h.2]

lemma meetsDigit_cons_of_digit {c : Char} (h : isDecimalDigit c = true) (rest : List Char) :
    meetsDigit (c :: rest) = true := by
  rw [meetsDigit, if_neg (by simp [not_white_of_digit h]), h]

lemma exists_of_meetsDigit {text : List Char} (h : meetsDigit text = true) :
    ∃ blank digit after, text = blank ++ digit :: after ∧ isDecimalDigit digit = true ∧
      ∀ c ∈ blank, isWhiteSpace c = true := by
  induction text with
  | nil => cases h
  | cons c rest ih =>
    rw [meetsDigit] at h
    split_ifs at h with hc
    · obtain ⟨blank, digit, after, rfl, hdigit, hblank⟩ := ih h
      exact ⟨c :: blank, digit, after, rfl, hdigit, List.forall_mem_cons.mpr ⟨hc, hblank⟩⟩
    · exact ⟨[], c, rest, rfl, h, by simp⟩

/-- Whether a place of a text lies in a gap. -/
def InGap (text : List Char) (place : Nat) : Prop :=
  ∃ before left gap right after, text = before ++ left :: (gap ++ right :: after) ∧
    IsGap left gap right ∧ before.length < place ∧ place ≤ before.length + gap.length

/-- **A character lies in a gap** exactly if it is white space and the nearest characters on both
sides that are no white space are digits. -/
theorem inGap_append_cons {before after : List Char} {c : Char} :
    InGap (before ++ c :: after) before.length ↔
      isWhiteSpace c = true ∧ meetsDigit before.reverse = true ∧ meetsDigit after = true := by
  constructor
  · rintro ⟨front, left, gap, right, rest, htext, hgap, hbehind, hwithin⟩
    obtain ⟨place, hplace⟩ := Nat.exists_eq_add_of_lt hbehind
    have hbelow : place < gap.length := by omega
    obtain ⟨blank, d, others, rfl, hlength⟩ : ∃ blank d others, gap = blank ++ d :: others ∧
        blank.length = place := by
      refine ⟨gap.take place, gap[place], gap.drop (place + 1), ?_,
        List.length_take_of_le hbelow.le⟩
      rw [List.getElem_cons_drop, List.take_append_drop]
    have hsplit : before ++ c :: after
        = (front ++ left :: blank) ++ d :: (others ++ right :: rest) := by
      rw [htext]
      simp only [List.append_assoc, List.cons_append]
    obtain ⟨rfl, hrest⟩ := List.append_inj hsplit (by simp; omega)
    obtain ⟨rfl, rfl⟩ := List.cons.inj hrest
    have hwhite := hgap.white
    rw [List.forall_mem_append, List.forall_mem_cons] at hwhite
    refine ⟨hwhite.2.1, ?_, ?_⟩
    · rw [List.reverse_append, List.reverse_cons, List.append_assoc, meetsDigit_append (by
        simpa using hwhite.1)]
      exact meetsDigit_cons_of_digit hgap.left _
    · rw [meetsDigit_append hwhite.2.2]
      exact meetsDigit_cons_of_digit hgap.right _
  · rintro ⟨hc, hbefore, hafter⟩
    obtain ⟨blank, left, front, hleft, hdigit, hblank⟩ := exists_of_meetsDigit hbefore
    obtain ⟨others, right, rest, rfl, hdigit', hothers⟩ := exists_of_meetsDigit hafter
    have hbefore : before = front.reverse ++ left :: blank.reverse := by
      rw [← List.reverse_reverse before, hleft, List.reverse_append, List.reverse_cons,
        List.append_assoc, List.singleton_append]
    refine ⟨front.reverse, left, blank.reverse ++ c :: others, right, rest, ?_, ?_, ?_, ?_⟩
    · rw [hbefore]
      simp only [List.append_assoc, List.cons_append]
    · refine ⟨hdigit, by simp, ?_, hdigit'⟩
      rw [List.forall_mem_append, List.forall_mem_cons]
      exact ⟨by simpa using hblank, hc, hothers⟩
    · rw [hbefore]
      simp
    · rw [hbefore]
      simp

lemma inGap_iff {text : List Char} {place : Nat} :
    InGap text place ↔ text[place]?.any isWhiteSpace = true ∧
      meetsDigit (text.take place).reverse = true ∧ meetsDigit (text.drop (place + 1)) = true := by
  by_cases hplace : place < text.length
  · have hsplit : InGap (text.take place ++ text[place] :: text.drop (place + 1))
        (text.take place).length ↔ _ := inGap_append_cons
    rw [List.getElem_cons_drop, List.take_append_drop, List.length_take_of_le hplace.le] at hsplit
    rw [hsplit, List.getElem?_eq_getElem hplace, Option.any_some]
  · have hnone : ¬ InGap text place := by
      rintro ⟨before, left, gap, right, after, rfl, -, -, hwithin⟩
      simp only [List.length_append, List.length_cons] at hplace
      omega
    rw [List.getElem?_eq_none (Nat.le_of_not_lt hplace)]
    simp [hnone]

instance (text : List Char) (place : Nat) : Decidable (InGap text place) :=
  decidable_of_iff _ inGap_iff.symm

/-- The text without its characters in gaps. -/
def withoutGaps (text : List Char) : List Char :=
  (text.zipIdx.filter fun entry => ¬ InGap text entry.2).map Prod.fst

example : withoutGaps "1 2 \u30003, a 4 b".toList = "123, a 4 b".toList := by decide +kernel

/-- A text without gaps has no characters in gaps. -/
lemma withoutGaps_of_not_hasGap {text : List Char} (h : ¬ HasGap text) :
    withoutGaps text = text := by
  have hnone : ∀ place, ¬ InGap text place := by
    rintro place ⟨before, left, gap, right, after, htext, hgap, -, -⟩
    exact h (hasGap_iff.mpr ⟨before, left, gap, right, after, htext, hgap⟩)
  rw [withoutGaps, List.filter_eq_self.mpr fun entry _ => decide_eq_true (hnone entry.2),
    List.zipIdx_map_fst]

/-- What is left of a text, by whether a digit is the nearest character before it that is no white
space. -/
def ungappedFrom (held : Bool) : List Char → List Char
  | [] => []
  | c :: rest =>
    if isWhiteSpace c then
      if held && meetsDigit rest then ungappedFrom held rest else c :: ungappedFrom held rest
    else c :: ungappedFrom (isDecimalDigit c) rest

lemma withoutGaps_from (before rest : List Char) :
    ((rest.zipIdx before.length).filter fun entry => ¬ InGap (before ++ rest) entry.2).map Prod.fst
      = ungappedFrom (meetsDigit before.reverse) rest := by
  induction rest generalizing before with
  | nil => rfl
  | cons c rest ih =>
    have hrest := ih (before ++ [c])
    rw [List.append_assoc, List.singleton_append, List.length_append, List.length_singleton,
      List.reverse_append, List.reverse_singleton, List.singleton_append, meetsDigit] at hrest
    rw [List.zipIdx_cons, List.filter_cons, ungappedFrom]
    simp only [inGap_append_cons, decide_not, Bool.not_eq_true', decide_eq_false_iff_not]
    cases hc : isWhiteSpace c with
    | false =>
      simp only [hc, Bool.false_eq_true, if_false, false_and, not_false_eq_true, if_true] at hrest ⊢
      rw [List.map_cons, ← hrest]
      simp only [decide_not]
    | true =>
      simp only [hc, if_true, true_and, ← Bool.and_eq_true] at hrest ⊢
      cases hgap : meetsDigit before.reverse && meetsDigit rest with
      | true =>
        simp only [not_true_eq_false, if_false, if_true]
        rw [← hrest]
        simp only [decide_not]
      | false =>
        simp only [Bool.false_eq_true, not_false_eq_true, if_true, if_false]
        rw [List.map_cons, ← hrest]
        simp only [decide_not]

lemma withoutGaps_eq (text : List Char) : withoutGaps text = ungappedFrom false text :=
  withoutGaps_from [] text

/-! ## Closing a gap changes nothing else -/

/-- What stands behind a digit does not matter before it. -/
lemma meetsDigit_before {left : Char} (h : isDecimalDigit left = true) (before rest : List Char) :
    meetsDigit (before ++ left :: rest) = meetsDigit (before ++ [left]) := by
  induction before with
  | nil => rw [List.nil_append, List.nil_append, meetsDigit_cons_of_digit h,
      meetsDigit_cons_of_digit h]
  | cons c before ih => rw [List.cons_append, List.cons_append, meetsDigit, meetsDigit, ih]

lemma ungappedFrom_cons_of_digit {c : Char} (h : isDecimalDigit c = true) (held : Bool)
    (rest : List Char) : ungappedFrom held (c :: rest) = c :: ungappedFrom true rest := by
  rw [ungappedFrom, if_neg (by simp [not_white_of_digit h]), h]

lemma ungappedFrom_append {blank rest : List Char} (h : ∀ c ∈ blank, isWhiteSpace c = true)
    (hrest : meetsDigit rest = true) :
    ungappedFrom true (blank ++ rest) = ungappedFrom true rest := by
  induction blank with
  | nil => rfl
  | cons c blank ih =>
    rw [List.forall_mem_cons] at h
    rw [List.cons_append, ungappedFrom, if_pos h.1, meetsDigit_append h.2, hrest, Bool.and_self,
      if_pos rfl, ih h.2]

lemma ungappedFrom_of_closesGap {text next : List Char} (h : ClosesGap text next) (held : Bool) :
    ungappedFrom held next = ungappedFrom held text := by
  cases h with
  | @close before after left right gap hgap =>
    induction before generalizing held with
    | nil =>
      have hafter := meetsDigit_cons_of_digit hgap.right after
      rw [List.nil_append, List.nil_append, ungappedFrom_cons_of_digit hgap.left,
        ungappedFrom_cons_of_digit hgap.left, ungappedFrom_append hgap.white hafter]
    | cons c before ih =>
      rw [List.cons_append, List.cons_append, ungappedFrom, ungappedFrom,
        meetsDigit_before hgap.left, meetsDigit_before hgap.left before (gap ++ _), ih, ih]

/-- **Closing gaps keeps the text without gaps.** -/
theorem withoutGaps_of_steps {text next : List Char} (h : ReflTransGen ClosesGap text next) :
    withoutGaps next = withoutGaps text := by
  induction h with
  | refl => rfl
  | tail _ hstep ih => rw [← ih, withoutGaps_eq, withoutGaps_eq, ungappedFrom_of_closesGap hstep]

/-- Where steps end there is the text without gaps. -/
lemma eq_withoutGaps {text next : List Char} (h : ReflTransGen ClosesGap text next)
    (hnext : ¬ HasGap next) : next = withoutGaps text := by
  rw [← withoutGaps_of_steps h, withoutGaps_of_not_hasGap hnext]

lemma joinNumbers_eq (text : List Char) : joinNumbers text = withoutGaps text :=
  eq_withoutGaps (steps_joinNumbers text) (not_hasGap_joinNumbers text)

/-- **Joining leaves out the gaps and nothing else.**  The sweeps come to an end, and what they
come to is the text without its characters in gaps.  Joining this again changes nothing.  In
whatever order gaps are closed, what is left can still be closed to the same text, and it is that
text exactly if no gap is left. -/
theorem joining_leaves_out_the_gaps (text : List Char) :
    (∃ rounds ≤ text.length, joinNumbers text = closeGaps^[rounds] text ∧
      ∀ round, closeGaps (closeGaps^[round] text) = closeGaps^[round] text ↔ rounds ≤ round) ∧
      joinNumbers text = withoutGaps text ∧
      joinNumbers (joinNumbers text) = joinNumbers text ∧
      ∀ between, ReflTransGen ClosesGap text between →
        ReflTransGen ClosesGap between (joinNumbers text) ∧
          (¬ HasGap between ↔ between = joinNumbers text) := by
  refine ⟨exists_rounds (Nat.le_refl text.length), joinNumbers_eq text, ?_, fun between h => ?_⟩
  · exact joinNumbers_of_closeGaps (closeGaps_eq_self_iff.mpr (not_hasGap_joinNumbers text))
  · have hsame : joinNumbers between = joinNumbers text := by
      rw [joinNumbers_eq, joinNumbers_eq, withoutGaps_of_steps h]
    refine ⟨hsame ▸ steps_joinNumbers between, fun hnone => ?_, ?_⟩
    · rw [joinNumbers_eq]
      exact eq_withoutGaps h hnone
    · rintro rfl
      exact not_hasGap_joinNumbers text

/-- The text `1 2 3`, whose second gap is closed first. -/
theorem second_gap_may_be_closed_first :
    ReflTransGen ClosesGap "1 2 3".toList "1 23".toList ∧
      ReflTransGen ClosesGap "1 23".toList "123".toList ∧
      closeGaps "1 2 3".toList = "12 3".toList ∧ joinNumbers "1 2 3".toList = "123".toList := by
  have hgap : IsGap '2' [' '] '3' := ⟨by decide +kernel, by decide,
    List.forall_mem_singleton.mpr (by decide +kernel), by decide +kernel⟩
  have hstep : ReflTransGen ClosesGap "1 2 3".toList "1 23".toList :=
    .single (.close ['1', ' '] [] hgap)
  have hjoined : joinNumbers "1 2 3".toList = "123".toList := by decide +kernel
  obtain ⟨-, -, -, horder⟩ := joining_leaves_out_the_gaps "1 2 3".toList
  exact ⟨hstep, hjoined ▸ (horder _ hstep).1, by decide +kernel, hjoined⟩

end Retrieval.Text

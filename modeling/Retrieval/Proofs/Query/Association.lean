import Mathlib.Data.List.Zip
import Mathlib.Tactic.Common
import Retrieval.Proofs.Ids.Extensionality
import Retrieval.Proofs.Posting.BitRow
import Retrieval.Query.Evaluation
import Retrieval.Query.Tree

/-!
# Trees that associate to the left

Printing leaves out the parentheses around an operand of the same operator, on either side, and
reading takes equal operators from left to right.  So what is read from a printed tree is not that
tree but `leftNested`: the tree in which every chain of one operator leans to the left.

Nothing that matters about a tree is lost that way.  It prints the same (`chars_leftNested`), and it
has the same documents, be it by set algebra (`evalSet_leftNested`) or by bit rows
(`evalRows_leftNested`).  All three rest on one fact about a chain each: what is made of two operands
associates.  For rows of one width it does even where a row cannot be read, because the terms are
read in the same order.
-/

namespace Retrieval.Query.Tree

open Posting (BitRow)
open Posting.BitRow

/-- The conjunction of two trees, where a chain on the right continues the left one. -/
def graftAnd (left : Tree) : Tree → Tree
  | and front last => and (left.graftAnd front) last
  | right => and left right

/-- The disjunction of two trees, where a chain on the right continues the left one. -/
def graftOr (left : Tree) : Tree → Tree
  | or front last => or (left.graftOr front) last
  | right => or left right

/-- The tree in which all chains of one operator lean to the left. -/
def leftNested : Tree → Tree
  | term value => term value
  | and left right => left.leftNested.graftAnd right.leftNested
  | or left right => left.leftNested.graftOr right.leftNested
  | not child => not child.leftNested

example : leftNested (and (term "a") (and (term "b") (or (term "c") (or (term "d") (term "e"))))) =
    and (and (term "a") (term "b")) (or (or (term "c") (term "d")) (term "e")) := by
  decide

/-! ## Chains -/

lemma graftAnd_graftAnd (a b c : Tree) : (a.graftAnd b).graftAnd c = a.graftAnd (b.graftAnd c) := by
  induction c with
  | and front last ih _ =>
    rw [graftAnd, graftAnd, graftAnd, ih]
  | term value => rfl
  | or left right => rfl
  | not child => rfl

lemma graftOr_graftOr (a b c : Tree) : (a.graftOr b).graftOr c = a.graftOr (b.graftOr c) := by
  induction c with
  | or front last ih _ =>
    rw [graftOr, graftOr, graftOr, ih]
  | term value => rfl
  | and left right => rfl
  | not child => rfl

lemma exists_graftAnd (left right : Tree) : ∃ front last, left.graftAnd right = and front last := by
  cases right <;> exact ⟨_, _, rfl⟩

lemma exists_graftOr (left right : Tree) : ∃ front last, left.graftOr right = or front last := by
  cases right <;> exact ⟨_, _, rfl⟩

/-! ## The printed form -/

lemma enclose_false (text : List Char) : enclose false text = text := rfl

lemma needsParens_graftAnd (op : Operator) (left right other other' : Tree) :
    (left.graftAnd right).needsParens op = (and other other').needsParens op := by
  obtain ⟨front, last, h⟩ := exists_graftAnd left right
  rw [h]
  rfl

lemma needsParens_graftOr (op : Operator) (left right other other' : Tree) :
    (left.graftOr right).needsParens op = (or other other').needsParens op := by
  obtain ⟨front, last, h⟩ := exists_graftOr left right
  rw [h]
  rfl

lemma needsParens_leftNested (op : Operator) (tree : Tree) :
    tree.leftNested.needsParens op = tree.needsParens op := by
  cases tree with
  | term value => rfl
  | and left right => exact needsParens_graftAnd op _ _ left right
  | or left right => exact needsParens_graftOr op _ _ left right
  | not child => rfl

lemma chars_graftAnd (left right : Tree) :
    (left.graftAnd right).chars = (and left right).chars := by
  induction right with
  | and front last ih _ =>
    have hwhole : (left.graftAnd front).needsParens .and = false :=
      needsParens_graftAnd .and left front left front
    rw [graftAnd, chars, hwhole, enclose_false, ih]
    change _ = enclose (left.needsParens .and) left.chars ++ [' ', 'A', 'N', 'D', ' '] ++
      (and front last).chars
    rw [chars, chars]
    simp only [List.append_assoc]
  | term value => rfl
  | or front last => rfl
  | not child => rfl

lemma chars_graftOr (left right : Tree) :
    (left.graftOr right).chars = (or left right).chars := by
  induction right with
  | or front last ih _ =>
    have hwhole : (left.graftOr front).needsParens .or = false :=
      needsParens_graftOr .or left front left front
    rw [graftOr, chars, hwhole, enclose_false, ih]
    change _ = enclose (left.needsParens .or) left.chars ++ [' ', 'O', 'R', ' '] ++
      (or front last).chars
    rw [chars, chars]
    simp only [List.append_assoc]
  | term value => rfl
  | and front last => rfl
  | not child => rfl

/-- **Leaning to the left does not show in print.** -/
theorem chars_leftNested (tree : Tree) : tree.leftNested.chars = tree.chars := by
  induction tree with
  | term value => rfl
  | and left right ihl ihr =>
    rw [leftNested, chars_graftAnd, chars, chars, needsParens_leftNested, needsParens_leftNested,
      ihl, ihr]
  | or left right ihl ihr =>
    rw [leftNested, chars_graftOr, chars, chars, needsParens_leftNested, needsParens_leftNested,
      ihl, ihr]
  | not child ih => rw [leftNested, chars, chars, ih]

/-! ## Sets -/

lemma evalSet_graftAnd (find : String → IdSet) (all : IdSet) (left right : Tree) :
    (left.graftAnd right).evalSet find all
      = (left.evalSet find all).inter (right.evalSet find all) := by
  induction right with
  | and front last ih _ =>
    rw [graftAnd, evalSet, ih, evalSet]
    refine IdSet.ext_mem fun doc => ?_
    rw [IdSet.mem_inter, IdSet.mem_inter, IdSet.mem_inter, IdSet.mem_inter, and_assoc]
  | term value => rfl
  | or front last => rfl
  | not child => rfl

lemma evalSet_graftOr (find : String → IdSet) (all : IdSet) (left right : Tree) :
    (left.graftOr right).evalSet find all
      = (left.evalSet find all).union (right.evalSet find all) := by
  induction right with
  | or front last ih _ =>
    rw [graftOr, evalSet, ih, evalSet]
    refine IdSet.ext_mem fun doc => ?_
    rw [IdSet.mem_union, IdSet.mem_union, IdSet.mem_union, IdSet.mem_union, or_assoc]
  | term value => rfl
  | and front last => rfl
  | not child => rfl

/-- **Leaning to the left keeps the documents.** -/
theorem evalSet_leftNested (find : String → IdSet) (all : IdSet) (tree : Tree) :
    tree.leftNested.evalSet find all = tree.evalSet find all := by
  induction tree with
  | term value => rfl
  | and left right ihl ihr => rw [leftNested, evalSet_graftAnd, ihl, ihr, evalSet]
  | or left right ihl ihr => rw [leftNested, evalSet_graftOr, ihl, ihr, evalSet]
  | not child ih => rw [leftNested, evalSet, ih, evalSet]

/-! ## Rows -/

/-- Two evaluations combined bit by bit. -/
def both (f : Bool → Bool → Bool) (a b : Except Fault BitRow) : Except Fault BitRow := do
  combine f (← a) (← b)

/-- Whether an evaluation that comes to a row comes to one of a width. -/
def OfWidth (width : Nat) (a : Except Fault BitRow) : Prop :=
  ∀ row, a = .ok row → row.length = width

section

variable {f : Bool → Bool → Bool} {width : Nat} {a b c : Except Fault BitRow}

lemma OfWidth.both (ha : OfWidth width a) (hb : OfWidth width b) : OfWidth width (both f a b) := by
  intro row hrow
  obtain ⟨rowa, hrowa, hrow⟩ := bind_eq_ok.mp hrow
  obtain ⟨rowb, hrowb, hrow⟩ := bind_eq_ok.mp hrow
  obtain ⟨hcombine, hlength⟩ := combine_of_length (f := f) (ha rowa hrowa) (hb rowb hrowb)
  rw [hcombine] at hrow
  cases hrow
  exact hlength

/-- Three evaluations of one width come to the same row from both sides, and else they fail with the
first of them that fails. -/
lemma both_assoc (hassoc : ∀ x y z, f (f x y) z = f x (f y z)) (ha : OfWidth width a)
    (hb : OfWidth width b) (hc : OfWidth width c) :
    Tree.both f (Tree.both f a b) c = Tree.both f a (Tree.both f b c) := by
  cases a with
  | error fault => rfl
  | ok rowa =>
    cases b with
    | error fault => rfl
    | ok rowb =>
      obtain ⟨hab, hablength⟩ := combine_of_length (f := f) (ha rowa rfl) (hb rowb rfl)
      cases c with
      | error fault =>
        change (combine f rowa rowb >>= fun _ => .error fault) = .error fault
        rw [hab, ok_bind]
      | ok rowc =>
        obtain ⟨hbc, hbclength⟩ := combine_of_length (f := f) (hb rowb rfl) (hc rowc rfl)
        change (combine f rowa rowb >>= fun row => combine f row rowc)
          = (combine f rowb rowc >>= fun row => combine f rowa row)
        rw [hab, hbc, ok_bind, ok_bind, (combine_of_length hablength (hc rowc rfl)).1,
          (combine_of_length (ha rowa rfl) hbclength).1, List.zipWith_zipWith_left,
          List.zipWith_zipWith_right]
        simp only [hassoc]

end

section

variable {read : String → Except Fault BitRow} {all : BitRow} {width : Nat}
  (hread : ∀ name, OfWidth width (read name)) (hall : all.length = width)

include hread hall

/-- Where the terms have rows of one width, every tree has. -/
lemma ofWidth_evalRows (tree : Tree) : OfWidth width (tree.evalRows read all) := by
  induction tree with
  | term value => exact hread value
  | and left right ihl ihr | or left right ihl ihr => exact ihl.both ihr
  | not child ih =>
    intro row hrow
    obtain ⟨inner, hinner, hrow⟩ := bind_eq_ok.mp hrow
    have hlength : (inner.map (!·)).length = width := (List.length_map _).trans (ih inner hinner)
    obtain ⟨hcombine, hwidth⟩ := combine_of_length (f := (· && ·)) hlength hall
    rw [BitRow.complement, BitRow.inter, hcombine] at hrow
    cases hrow
    exact hwidth

lemma evalRows_graftAnd (left right : Tree) :
    (left.graftAnd right).evalRows read all
      = both (· && ·) (left.evalRows read all) (right.evalRows read all) := by
  induction right with
  | and front last ih _ =>
    change both (· && ·) ((left.graftAnd front).evalRows read all) (last.evalRows read all) = _
    rw [ih, both_assoc Bool.and_assoc (ofWidth_evalRows hread hall left)
      (ofWidth_evalRows hread hall front) (ofWidth_evalRows hread hall last)]
    rfl
  | term value => rfl
  | or front last => rfl
  | not child => rfl

lemma evalRows_graftOr (left right : Tree) :
    (left.graftOr right).evalRows read all
      = both (· || ·) (left.evalRows read all) (right.evalRows read all) := by
  induction right with
  | or front last ih _ =>
    change both (· || ·) ((left.graftOr front).evalRows read all) (last.evalRows read all) = _
    rw [ih, both_assoc Bool.or_assoc (ofWidth_evalRows hread hall left)
      (ofWidth_evalRows hread hall front) (ofWidth_evalRows hread hall last)]
    rfl
  | term value => rfl
  | and front last => rfl
  | not child => rfl

/-- **Leaning to the left keeps the row**, or the fault that stops a term from being read. -/
theorem evalRows_leftNested (tree : Tree) :
    tree.leftNested.evalRows read all = tree.evalRows read all := by
  induction tree with
  | term value => rfl
  | and left right ihl ihr =>
    rw [leftNested, evalRows_graftAnd hread hall, ihl, ihr]
    rfl
  | or left right ihl ihr =>
    rw [leftNested, evalRows_graftOr hread hall, ihl, ihr]
    rfl
  | not child ih => rw [leftNested, evalRows, ih, evalRows]

end

end Retrieval.Query.Tree

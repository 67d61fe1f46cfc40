import Mathlib.Tactic.Common
import Retrieval.Proofs.Ids.Extensionality
import Retrieval.Proofs.Posting.BitRow
import Retrieval.Query.Evaluation

/-!
# Both evaluations decide satisfaction

A tree is satisfied or not as soon as it is known which of its terms hold: `holds` reads `AND`, `OR`
and negation as the connectives of logic.  The two evaluations compute the documents that satisfy a
tree, one by set algebra and one by bit rows.

For sets this is `toList_evalSet`: out of a universe, the evaluation keeps the documents that
satisfy the tree, in their order.  For rows it is `select_evalRow`: over rows of one width the
evaluation never stops, and its row selects the documents that satisfy the tree.  Both are
inductions over the tree with one case for each connective, and neither looks at how postings are
stored.
-/

namespace Retrieval.Query.Tree

open Posting (BitRow)
open Posting.BitRow

/-- Whether a tree holds, given which terms do. -/
def holds (value : String → Bool) : Tree → Bool
  | term name => value name
  | and left right => left.holds value && right.holds value
  | or left right => left.holds value || right.holds value
  | not child => !child.holds value

/-- Only the terms of a tree matter to it. -/
lemma holds_congr {value value' : String → Bool} {tree : Tree}
    (h : ∀ name ∈ tree.leaves, value name = value' name) :
    tree.holds value = tree.holds value' := by
  induction tree with
  | term name => exact h name (List.mem_singleton.mpr rfl)
  | and left right ihl ihr | or left right ihl ihr =>
    simp only [leaves, List.mem_append] at h
    rw [holds, holds, ihl fun name hname => h name (Or.inl hname),
      ihr fun name hname => h name (Or.inr hname)]
  | not child ih => rw [holds, holds, ih h]

/-! ## Sets -/

lemma mem_evalSet {find : String → IdSet} {all : IdSet} {doc : UInt32} (hdoc : doc ∈ all)
    (tree : Tree) :
    doc ∈ tree.evalSet find all ↔ tree.holds (fun name => (find name).contains doc) = true := by
  induction tree with
  | term name => exact IdSet.contains_iff.symm
  | and left right ihl ihr =>
    rw [evalSet, IdSet.mem_inter, ihl, ihr, holds, Bool.and_eq_true]
  | or left right ihl ihr =>
    rw [evalSet, IdSet.mem_union, ihl, ihr, holds, Bool.or_eq_true]
  | not child ih =>
    rw [evalSet, IdSet.mem_diff, ih, holds, Bool.not_eq_true', Bool.not_eq_true]
    exact and_iff_right hdoc

lemma mem_all_of_mem_evalSet {find : String → IdSet} {all : IdSet} {doc : UInt32} {tree : Tree}
    (hfind : ∀ name doc, doc ∈ find name → doc ∈ all) (hdoc : doc ∈ tree.evalSet find all) :
    doc ∈ all := by
  induction tree with
  | term name => exact hfind name doc hdoc
  | and left right ihl ihr => exact ihl (IdSet.mem_inter.mp hdoc).1
  | or left right ihl ihr =>
    rcases IdSet.mem_union.mp hdoc with hleft | hright
    · exact ihl hleft
    · exact ihr hright
  | not child ih => exact (IdSet.mem_diff.mp hdoc).1

/-- **Set algebra decides satisfaction.** -/
theorem toList_evalSet {find : String → IdSet} {all : IdSet}
    (hfind : ∀ name doc, doc ∈ find name → doc ∈ all) (tree : Tree) :
    (tree.evalSet find all).toList
      = all.toList.filter fun doc => tree.holds fun name => (find name).contains doc := by
  refine eq_of_ascending (IdSet.ascending _) (all.ascending.filter _) fun doc => ?_
  rw [← IdSet.mem_def, List.mem_filter, ← IdSet.mem_def]
  constructor
  · intro hdoc
    have hall := mem_all_of_mem_evalSet hfind hdoc
    exact ⟨hall, (mem_evalSet hall tree).mp hdoc⟩
  · rintro ⟨hall, hholds⟩
    exact (mem_evalSet hall tree).mpr hholds

/-! ## Rows -/

lemma testBit_zipWith {f : Bool → Bool → Bool} {a b : BitRow} {slot : Nat}
    (hlength : a.length = b.length) (hslot : slot < a.length) :
    testBit (a.zipWith f b) slot = f (a.testBit slot) (b.testBit slot) := by
  simp only [testBit, List.getD_eq_getElem?_getD, List.getElem?_zipWith,
    List.getElem?_eq_getElem hslot, List.getElem?_eq_getElem (hlength ▸ hslot),
    Option.getD_some]

lemma testBit_map_not {row : BitRow} {slot : Nat} (hslot : slot < row.length) :
    testBit (row.map (!·)) slot = !row.testBit slot := by
  simp only [testBit, List.getD_eq_getElem?_getD, List.getElem?_map,
    List.getElem?_eq_getElem hslot, Option.map_some, Option.getD_some]

/-- Rows of one width combine into a row of that width, bit by bit. -/
lemma combine_spec {f : Bool → Bool → Bool} {a b : BitRow} {width : Nat} (ha : a.length = width)
    (hb : b.length = width) :
    ∃ row, combine f a b = .ok row ∧ row.length = width ∧
      ∀ slot < width, row.testBit slot = f (a.testBit slot) (b.testBit slot) := by
  obtain ⟨hcombine, hlength⟩ := combine_of_length (f := f) ha hb
  exact ⟨a.zipWith f b, hcombine, hlength,
    fun slot hslot => testBit_zipWith (ha.trans hb.symm) (ha ▸ hslot)⟩

/-- Over rows of one width the evaluation gives a row of that width, whose bits say at which slots
the tree holds. -/
lemma evalRow_spec {find : String → BitRow} {width : Nat}
    (hfind : ∀ name, (find name).length = width) (tree : Tree) :
    ∃ row, tree.evalRow find (ones width) = .ok row ∧ row.length = width ∧
      ∀ slot < width, row.testBit slot = tree.holds fun name => (find name).testBit slot := by
  induction tree with
  | term name => exact ⟨find name, rfl, hfind name, fun _ _ => rfl⟩
  | and left right ihl ihr =>
    obtain ⟨a, hevala, ha, hbita⟩ := ihl
    obtain ⟨b, hevalb, hb, hbitb⟩ := ihr
    obtain ⟨row, hrow, hlength, hbit⟩ := combine_spec (f := (· && ·)) ha hb
    refine ⟨row, ?_, hlength, fun slot hslot => ?_⟩
    · rw [evalRow_and, hevala, hevalb]
      exact hrow
    · rw [hbit slot hslot, hbita slot hslot, hbitb slot hslot, holds]
  | or left right ihl ihr =>
    obtain ⟨a, hevala, ha, hbita⟩ := ihl
    obtain ⟨b, hevalb, hb, hbitb⟩ := ihr
    obtain ⟨row, hrow, hlength, hbit⟩ := combine_spec (f := (· || ·)) ha hb
    refine ⟨row, ?_, hlength, fun slot hslot => ?_⟩
    · rw [evalRow_or, hevala, hevalb]
      exact hrow
    · rw [hbit slot hslot, hbita slot hslot, hbitb slot hslot, holds]
  | not child ih =>
    obtain ⟨a, heval, ha, hbita⟩ := ih
    obtain ⟨row, hrow, hlength, hbit⟩ :=
      combine_spec (f := (· && ·)) ((List.length_map (!·)).trans ha) (length_ones width)
    refine ⟨row, ?_, hlength, fun slot hslot => ?_⟩
    · rw [evalRow_not, heval]
      exact hrow
    · -- the universe has every bit set, so what is left of it is the negation
      rw [hbit slot hslot, testBit_map_not (ha ▸ hslot), testBit_ones.mpr hslot, Bool.and_true,
        hbita slot hslot, holds]

/-- **Bit rows decide satisfaction.**  If the row of each term says at each slot whether the term
holds of the element there, the row of a tree selects the elements that satisfy the tree. -/
theorem select_evalRow {α : Type} {items : List α} {find : String → BitRow}
    {value : String → α → Bool} (hlength : ∀ name, (find name).length = items.length)
    (hbit : ∀ name slot item, items[slot]? = some item →
      (find name).testBit slot = value name item) (tree : Tree) :
    ∃ row, tree.evalRow find (ones items.length) = .ok row ∧
      row.select items = items.filter fun item => tree.holds (value · item) := by
  obtain ⟨row, heval, -, hrow⟩ := evalRow_spec hlength tree
  refine ⟨row, heval, select_eq_filter fun slot item hitem => ?_⟩
  obtain ⟨hslot, -⟩ := List.getElem?_eq_some_iff.mp hitem
  rw [hrow slot hslot]
  exact holds_congr fun name _ => hbit name slot item hitem

end Retrieval.Query.Tree

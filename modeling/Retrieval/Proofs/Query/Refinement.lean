import Mathlib.Tactic.Common
import Retrieval.Posting.Bitset
import Retrieval.Proofs.Query.Satisfaction

/-!
# Bit rows refine sets

The documents of a term can be given as a set or, beside a universe of documents, as a row with one
bit for each of them (`rowOf`).  The two evaluations of a tree share no operation: one filters and
merges sets, the other turns and masks bits.  That they come to the same is
`row_evaluation_refines_sets`.  It rests on satisfaction, which both of them decide: a bit of the
row says whether the tree holds of the document at its slot (`evalRow_spec`), and so does membership
in the set (`mem_evalSet`).

Sets need no universe around them.  What a tree means over any sets whatever is `Meets`, where the
universe comes in with negation alone.
-/

namespace Retrieval.Query.Tree

open Posting (BitRow Bitset)
open Posting.BitRow

/-! ## Sets of any documents -/

/-- Whether a document meets a tree.  It meets a negation if it is one of the universe and does not
meet what is negated. -/
def Meets (find : String → IdSet) (all : IdSet) (doc : UInt32) : Tree → Prop
  | term name => doc ∈ find name
  | and left right => left.Meets find all doc ∧ right.Meets find all doc
  | or left right => left.Meets find all doc ∨ right.Meets find all doc
  | not child => doc ∈ all ∧ ¬ child.Meets find all doc

/-- **Set algebra finds what meets the tree**, also outside the universe. -/
theorem mem_evalSet_iff_meets {find : String → IdSet} {all : IdSet} {doc : UInt32} (tree : Tree) :
    doc ∈ tree.evalSet find all ↔ tree.Meets find all doc := by
  induction tree with
  | term name => exact Iff.rfl
  | and left right ihl ihr => rw [evalSet, IdSet.mem_inter, ihl, ihr, Meets]
  | or left right ihl ihr => rw [evalSet, IdSet.mem_union, ihl, ihr, Meets]
  | not child ih => rw [evalSet, IdSet.mem_diff, ih, Meets]

/-! ## Rows of a universe -/

/-- The row of a set beside a universe: one bit for each document of the universe. -/
def rowOf (all set : IdSet) : BitRow :=
  all.toList.map set.contains

lemma length_rowOf (all set : IdSet) : (rowOf all set).length = all.toList.length :=
  List.length_map _

lemma testBit_rowOf {all set : IdSet} {slot : Nat} {doc : UInt32}
    (h : all.toList[slot]? = some doc) : (rowOf all set).testBit slot = set.contains doc := by
  rw [testBit, rowOf, List.getD_eq_getElem?_getD, List.getElem?_map, h]
  rfl

/-- **Bit rows refine sets.**  Set algebra finds exactly the documents that meet the tree.  If the
documents of all terms are some of a universe, the evaluation over their rows does not stop.  Its
row is as wide as the universe, with the bits set at the slots of the documents that set algebra
finds, as many as these are; and a store over this universe decodes it to them, the greatest
first. -/
theorem row_evaluation_refines_sets (tree : Tree) (find : String → IdSet) (all : IdSet) :
    (∀ doc, doc ∈ tree.evalSet find all ↔ tree.Meets find all doc) ∧
    ((∀ name doc, doc ∈ find name → doc ∈ all) →
      ∃ row, tree.evalRow (fun name => rowOf all (find name)) (ones all.card) = .ok row ∧
        row.length = all.card ∧
        (∀ slot doc, all.toList[slot]? = some doc →
          (row.testBit slot = true ↔ doc ∈ tree.evalSet find all)) ∧
        (∀ store : Bitset, store.documents = all.toList →
          store.decode row = (tree.evalSet find all).toList.reverse) ∧
        row.card = (tree.evalSet find all).card) := by
  refine ⟨fun doc => mem_evalSet_iff_meets tree, fun hfind => ?_⟩
  obtain ⟨row, heval, hwidth, hrow⟩ :=
    evalRow_spec (fun name => length_rowOf all (find name)) tree
  have hbit : ∀ slot doc, all.toList[slot]? = some doc →
      row.testBit slot = tree.holds fun name => (find name).contains doc := by
    intro slot doc hdoc
    obtain ⟨hslot, -⟩ := List.getElem?_eq_some_iff.mp hdoc
    rw [hrow slot hslot]
    exact holds_congr fun name _ => testBit_rowOf hdoc
  have hselect : row.select all.toList = (tree.evalSet find all).toList := by
    rw [toList_evalSet hfind]
    exact select_eq_filter hbit
  refine ⟨row, heval, hwidth, fun slot doc hdoc => ?_, fun store hstore => ?_, ?_⟩
  · rw [hbit slot doc hdoc]
    exact (mem_evalSet (List.mem_of_getElem? hdoc) tree).symm
  · rw [Bitset.decode, hstore, hselect]
  · rw [IdSet.card, ← hselect, length_select hwidth]

/-- A universe of five documents, two known terms and an unknown one. -/
theorem rows_of_recipes_refine_sets :
    let all := IdSet.ofList [1, 3, 6, 7, 9]
    let find := fun name : String =>
      if name = "meat" then IdSet.ofList [1, 6, 7]
      else if name = "lemon" then IdSet.ofList [3, 7] else IdSet.empty
    let tree : Tree := .or (.not (.or (.term "meat") (.term "durian")))
      (.and (.term "lemon") (.not (.not (.term "meat"))))
    (∀ name doc, doc ∈ find name → doc ∈ all) ∧
    tree.evalSet find all = IdSet.ofList [3, 7, 9] ∧
    ∃ row, tree.evalRow (fun name => rowOf all (find name)) (ones all.card) = .ok row ∧
      row.length = all.card ∧
      (∀ slot doc, all.toList[slot]? = some doc →
        (row.testBit slot = true ↔ doc ∈ tree.evalSet find all)) ∧
      (∀ store : Bitset, store.documents = all.toList →
        store.decode row = (tree.evalSet find all).toList.reverse) ∧
      row.card = (tree.evalSet find all).card := by
  intro all find tree
  have hmeat : (IdSet.ofList [1, 6, 7]).toList.all (· ∈ all) = true := by decide
  have hlemon : (IdSet.ofList [3, 7]).toList.all (· ∈ all) = true := by decide
  have hfind : ∀ name doc, doc ∈ find name → doc ∈ all := by
    intro name doc hdoc
    simp only [find] at hdoc
    split_ifs at hdoc
    · exact of_decide_eq_true (List.all_eq_true.mp hmeat doc hdoc)
    · exact of_decide_eq_true (List.all_eq_true.mp hlemon doc hdoc)
    · exact absurd hdoc (IdSet.not_mem_empty doc)
  exact ⟨hfind, by decide +kernel, (row_evaluation_refines_sets tree find all).2 hfind⟩

end Retrieval.Query.Tree

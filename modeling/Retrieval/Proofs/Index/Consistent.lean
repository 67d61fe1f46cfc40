import Retrieval.Proofs.Fault
import Retrieval.Proofs.Posting.Listing
import Retrieval.Proofs.Query.Satisfaction
import Retrieval.Search

/-!
# Boolean search over a consistent index

An index is *consistent* if its parts fit together: the table of documents can be asked for
addresses and lists its ids in ascending order, the postings are canonical and refer to no document
that is not bound, and bit rows have exactly the bound documents for slots.  That is all a boolean
search needs.  `boolean_eq` says in full what it answers on such an index: the bound documents that
satisfy the tree, each with its address, ascending by id or, over bit rows, descending.
-/

namespace Retrieval

open Posting (Representation Store)
open Query (Tree)

namespace Index

/-- The invariant of an index whose parts fit together. -/
structure Consistent (index : Index) : Prop where
  reversible : index.docs.mode = .reversible
  ascending : index.docs.ids.Pairwise (· < ·)
  canonical : index.postings.Canonical
  bound : ∀ {term doc}, doc ∈ index.postings.docsFor term → doc ∈ index.docs.ids
  registered : index.postings.representation = .bitset →
    index.postings.registered = index.docs.ids

/-- Whether a term was recorded in a document; an unknown term was recorded in none. -/
def hasTerm (index : Index) (doc : UInt32) (term : String) : Bool :=
  match index.termId term with
  | some id => index.postings.contains id doc
  | none => false

namespace Consistent

variable {index : Index}

lemma toList_docIds (h : index.Consistent) : index.docIds.toList = index.docs.ids :=
  IdSet.toList_ofList h.ascending

/-- A document that is listed with an address is reported with that address. -/
lemma reverse_eq (h : index.Consistent) {doc : UInt32} {url : String}
    (hdoc : (doc, url) ∈ index.docs.byId) : index.docs.reverse doc = .ok url := by
  have hnodup : (index.docs.byId.map Prod.fst).Nodup := h.ascending.imp UInt32.ne_of_lt
  have hlookup := (lookup_eq_some_iff_mem hnodup).mpr hdoc
  simp only [Symbol.Table.reverse, Symbol.Table.reverse?, h.reversible, hlookup]
  rfl

/-- The postings refer to bound documents only. -/
lemma mem_ids_of_referenced (h : index.Consistent) {doc : UInt32}
    (hdoc : doc ∈ index.postings.referenced) : doc ∈ index.docs.ids := by
  rcases Store.mem_referenced.mp hdoc with ⟨term, hterm⟩ | ⟨hbitset, hslot⟩
  · exact h.bound hterm
  · rwa [h.registered hbitset] at hslot

lemma contains_docsOf (h : index.Consistent) (doc : UInt32) (term : String) :
    (Search.docsOf index term).contains doc = index.hasTerm doc term := by
  rw [Search.docsOf, hasTerm]
  cases index.termId term with
  | none => rfl
  | some id =>
    rw [Bool.eq_iff_iff, IdSet.contains_iff, Store.contains_iff h.canonical]

end Consistent

end Index

namespace Search

/-- The order in which a boolean search lists documents, given them in ascending order. -/
def inOrder {α : Type} (representation : Representation) (items : List α) : List α :=
  match representation with
  | .bitset => items.reverse
  | _ => items

@[simp]
lemma mem_inOrder {α : Type} {representation : Representation} {items : List α} {item : α} :
    item ∈ inOrder representation items ↔ item ∈ items := by
  cases representation <;> simp [inOrder]

lemma map_inOrder {α β : Type} (representation : Representation) (f : α → β) (items : List α) :
    (inOrder representation items).map f = inOrder representation (items.map f) := by
  cases representation <;> simp [inOrder]

@[simp]
lemma length_inOrder {α : Type} (representation : Representation) (items : List α) :
    (inOrder representation items).length = items.length := by
  cases representation <;> simp [inOrder]

@[simp]
lemma nodup_inOrder {α : Type} {representation : Representation} {items : List α} :
    (inOrder representation items).Nodup ↔ items.Nodup := by
  cases representation <;> simp [inOrder]

section Satisfying

variable {index : Index} (h : index.Consistent)

include h

/-- The documents of a term are bound. -/
lemma mem_docIds_of_mem_docsOf {term : String} {doc : UInt32} (hdoc : doc ∈ docsOf index term) :
    doc ∈ index.docIds := by
  rw [docsOf] at hdoc
  cases hid : index.termId term with
  | none =>
    rw [hid] at hdoc
    exact absurd hdoc (IdSet.not_mem_empty doc)
  | some id =>
    rw [hid] at hdoc
    rw [IdSet.mem_def, h.toList_docIds]
    exact h.bound hdoc

/-- Over sets of documents a tree comes to the bound documents that satisfy it. -/
lemma toList_evalSet_docsOf (tree : Tree) :
    (tree.evalSet (docsOf index) index.docIds).toList
      = index.docs.ids.filter fun doc => tree.holds (index.hasTerm doc) := by
  rw [Tree.toList_evalSet fun _ _ => mem_docIds_of_mem_docsOf h, h.toList_docIds]
  refine List.filter_congr fun doc _ => ?_
  simp only [h.contains_docsOf]

/-- Over bit rows a tree comes to a row that selects the bound documents that satisfy it. -/
lemma select_evalRows_rowOf {rows : Posting.Bitset} (hpostings : index.postings = .bitset rows)
    (tree : Tree) :
    ∃ row, tree.evalRows (rowOf index rows) rows.fullRow = .ok row ∧
      Posting.BitRow.select row rows.documents
        = index.docs.ids.filter fun doc => tree.holds (index.hasTerm doc) := by
  have hcanonical : rows.Canonical := by simpa [hpostings, Store.Canonical] using h.canonical
  have hregistered : rows.documents = index.docs.ids := by
    simpa [hpostings, Store.registered, Store.representation] using h.registered
  have hread : ∀ term, ∃ row, rowOf index rows term = .ok row ∧
      row.length = rows.documents.length ∧ ∀ slot doc, rows.documents[slot]? = some doc →
        row.testBit slot = index.hasTerm doc term := by
    intro term
    rw [rowOf]
    simp only [Index.hasTerm]
    cases index.termId term with
    | none =>
      exact ⟨rows.emptyRow, rfl, Posting.BitRow.length_zeros _,
        fun slot _ _ => Posting.BitRow.testBit_zeros _ slot⟩
    | some id =>
      refine ⟨rows.row id, Posting.Bitset.readRow_eq hcanonical id,
        Posting.Bitset.length_row hcanonical id, fun slot doc hdoc => ?_⟩
      rw [hpostings, Bool.eq_iff_iff, Posting.Bitset.testBit_row hcanonical hdoc]
      exact hcanonical.contains_iff.symm
  choose find hfind hlength hbit using hread
  obtain ⟨row, heval, hselect⟩ := Tree.select_evalRow hlength hbit tree
  rw [show rowOf index rows = fun term => .ok (find term) from funext hfind]
  refine ⟨row, heval, ?_⟩
  rw [hselect, hregistered]

/-- The documents that satisfy a tree, whatever the layout of the postings. -/
lemma satisfying_eq (tree : Tree) :
    satisfying index tree
      = .ok (inOrder index.postings.representation
          (index.docs.ids.filter fun doc => tree.holds (index.hasTerm doc))) := by
  cases hpostings : index.postings with
  | bitset rows =>
    obtain ⟨row, heval, hselect⟩ := select_evalRows_rowOf h hpostings tree
    simp only [satisfying, hpostings, heval, Except.map, Posting.Bitset.decode, hselect,
      Store.representation, inOrder]
  | docSet rows =>
    rw [satisfying, hpostings, ← toList_evalSet_docsOf h tree]
    rfl
  | positional rows =>
    rw [satisfying, hpostings, ← toList_evalSet_docsOf h tree]
    rfl

end Satisfying

/-- Reporting a document that is listed with its address never stops. -/
lemma hit_eq {index : Index} (h : index.Consistent) (score? : Option Binary64) {doc : UInt32}
    {url : String} (hdoc : (doc, url) ∈ index.docs.byId) :
    hit index score? doc = .ok ⟨doc, url, score?⟩ := by
  rw [hit, h.reverse_eq hdoc]
  rfl

/-- **Boolean search in full.**  On a consistent index a boolean search never stops, and it lists
the bound documents that satisfy the tree, each with its address. -/
theorem boolean_eq {index : Index} (h : index.Consistent) (tree : Tree) :
    let found := index.docs.byId.filter fun entry => tree.holds (index.hasTerm entry.1)
    boolean index tree
      = .ok ⟨found.length, inOrder index.postings.representation
          (found.map fun entry => ⟨entry.1, entry.2, none⟩)⟩ := by
  intro found
  have hids : index.docs.ids.filter (fun doc => tree.holds (index.hasTerm doc))
      = found.map Prod.fst := by
    rw [Symbol.Table.ids, List.filter_map]
    rfl
  have hlisted : ∀ entry ∈ inOrder index.postings.representation found,
      entry ∈ index.docs.byId := by
    intro entry hentry
    exact (List.mem_filter.mp (mem_inOrder.mp hentry)).1
  rw [boolean, satisfying_eq h, hids, ← map_inOrder, ← map_inOrder]
  have hhits : ((inOrder index.postings.representation found).map Prod.fst).mapM (hit index none)
      = .ok ((inOrder index.postings.representation found).map fun entry =>
          ⟨entry.1, entry.2, none⟩) := by
    rw [List.mapM_map]
    exact mapM_eq_ok_map fun entry hentry => hit_eq h none (hlisted entry hentry)
  simp only [ok_bind, hhits, pure, Except.pure, List.length_map, length_inOrder]

end Search

end Retrieval

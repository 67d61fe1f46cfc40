import Mathlib.Tactic.Common
import Retrieval.Proofs.Archive.Loaded
import Retrieval.Proofs.Index.Counting
import Retrieval.Proofs.Rank.Overflow

/-!
# How an index comes about

An index is built from records, joined from parts or loaded from files, and there is no other way.
Whichever it was, it is consistent (`Obtained.consistent`), and this is all that searching asks of
an index, except for the size of a window: an index is measurable if no scan over it comes to the
window of all positions.  A builder counts positions from 1, so what it makes is measurable
(`measurable_of_addAll`); positions that are read from a file may be any.
-/

namespace Retrieval.Index

open Archive (FileError Meta Path Paths load)
open Corpus (Record)
open Posting (Representation Store)
open Rank (Overflows lastPosition positionsIn seenAt)

/-- The ways to an index. -/
inductive Obtained : Index → Prop where
  /-- Records are added to a builder that begins with nothing. -/
  | built {analysis : Analysis} {representation : Representation} {records : List Record}
      {answers : List (Option UInt32)} {builder : Builder}
      (h : (Builder.empty representation).addAll analysis records = .ok (answers, builder)) :
      Obtained builder.index
  /-- Tables and postings that have the invariants of their kind are joined. -/
  | joined {terms docs : Symbol.Table} {postings : Store} {index : Index} (hdocs : docs.Coherent)
      (hpostings : postings.Canonical) (h : ofParts terms docs postings = .ok index) :
      Obtained index
  /-- Files of any contents are loaded. -/
  | loaded {read : Path → Except FileError (List UInt8)} {paths : Paths} {index : Index}
      {info : Meta} (h : load read paths = .ok (index, info)) : Obtained index

/-- **However it comes about, an index is consistent.** -/
theorem Obtained.consistent {index : Index} (h : index.Obtained) : index.Consistent := by
  cases h with
  | @built analysis representation records answers builder h =>
    obtain ⟨-, hbuilder⟩ := (Builder.Describes.empty analysis representation).addAll h
    exact hbuilder.consistent
  | joined hdocs hpostings h => exact consistent_of_ofParts hdocs hpostings h
  | loaded h => exact (Archive.consistent_of_load h).1

/-- Whether no scan over an index comes to the window of all positions, the only one whose size does
not fit. -/
def Measurable (index : Index) : Prop :=
  ∀ store, index.postings = .positional store →
    ∀ terms doc, ¬ Overflows (positionsIn store terms doc)

/-- Where positions are counted from 1 no scan comes to position 0. -/
lemma measurable_of_allCounted {index : Index} (h : index.postings.AllCounted) :
    index.Measurable := by
  rintro store hstore terms doc ⟨now, own, -, -, hseen, zeros, hzeros, hzero⟩
  rw [hstore] at h
  have hne : zeros ≠ [] := by
    rintro rfl
    exact hseen hzeros
  obtain ⟨p, hp⟩ := List.exists_mem_of_ne_nil zeros hne
  -- what was seen of a term are positions that the store keeps for it
  obtain ⟨place, hplace⟩ := List.mem_iff_getElem?.mp hzeros
  rw [seenAt, List.getElem?_mapIdx, Option.map_eq_some_iff] at hplace
  obtain ⟨kept, hkept, rfl⟩ := hplace
  obtain ⟨term, -, rfl⟩ := List.mem_map.mp (List.mem_of_getElem? hkept)
  have hpkept := (List.mem_filter.mp hp).1
  cases hpositions : store.positions? term doc with
  | none =>
    rw [hpositions] at hpkept
    cases hpkept
  | some positions =>
    rw [hpositions] at hpkept
    have hone := (h term doc positions hpositions).positive p hpkept
    rw [hzero p hp] at hone
    cases hone

/-- **What a builder makes is measurable**, whatever was added. -/
theorem measurable_of_addAll {analysis : Analysis} {representation : Representation}
    {records : List Record} {answers : List (Option UInt32)} {builder : Builder}
    (h : (Builder.empty representation).addAll analysis records = .ok (answers, builder)) :
    builder.index.Measurable :=
  measurable_of_allCounted (Builder.allCounted_of_addAll h)

end Retrieval.Index

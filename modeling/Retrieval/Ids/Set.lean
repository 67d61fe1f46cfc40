/-!
# Sets of ids

A finite set of 32-bit ids is the ascending list of its members.  Equal sets are equal lists, and
the order in which members were put in leaves no trace.  Every operation is described by its
members, in lemmas named for `mem`.
-/

namespace Retrieval

/-- A finite set of ids, listed in ascending order. -/
@[ext]
structure IdSet where
  toList : List UInt32
  ascending : toList.Pairwise (· < ·)
  deriving DecidableEq

namespace IdSet

instance : Membership UInt32 IdSet := ⟨fun set id => id ∈ set.toList⟩

instance (id : UInt32) (set : IdSet) : Decidable (id ∈ set) :=
  inferInstanceAs (Decidable (id ∈ set.toList))

theorem mem_def {id : UInt32} {set : IdSet} : id ∈ set ↔ id ∈ set.toList := Iff.rfl

/-! ## Insertion -/

/-- Puts an id into its place in an ascending list. -/
def insertSorted (id : UInt32) : List UInt32 → List UInt32
  | [] => [id]
  | first :: rest =>
    if id < first then id :: first :: rest
    else if id = first then first :: rest
    else first :: insertSorted id rest

theorem mem_insertSorted {id other : UInt32} {ids : List UInt32} :
    other ∈ insertSorted id ids ↔ other = id ∨ other ∈ ids := by
  induction ids with
  | nil => simp [insertSorted]
  | cons first rest ih =>
    unfold insertSorted
    split
    · simp
    · split
      · rename_i h
        simp [h]
      · simp only [List.mem_cons, ih]
        grind

theorem insertSorted_ascending {id : UInt32} {ids : List UInt32}
    (h : ids.Pairwise (· < ·)) : (insertSorted id ids).Pairwise (· < ·) := by
  induction ids with
  | nil => simp [insertSorted]
  | cons first rest ih =>
    have hfirst := List.pairwise_cons.1 h
    unfold insertSorted
    split
    · rename_i hlt
      refine List.pairwise_cons.2 ⟨fun other hmem => ?_, h⟩
      rcases List.mem_cons.1 hmem with rfl | hmem
      · exact hlt
      · exact UInt32.lt_trans hlt (hfirst.1 other hmem)
    · split
      · exact h
      · rename_i hge hne
        refine List.pairwise_cons.2 ⟨fun other hmem => ?_, ih hfirst.2⟩
        rcases mem_insertSorted.1 hmem with rfl | hmem
        · exact UInt32.lt_of_le_of_ne (UInt32.not_lt.1 hge) (Ne.symm hne)
        · exact hfirst.1 other hmem

/-! ## Operations -/

/-- The set without members. -/
def empty : IdSet := ⟨[], List.Pairwise.nil⟩

/-- The set with one more member. -/
def insert (set : IdSet) (id : UInt32) : IdSet :=
  ⟨insertSorted id set.toList, insertSorted_ascending set.ascending⟩

/-- The members of a list. -/
def ofList (ids : List UInt32) : IdSet :=
  ids.foldl insert empty

/-- Whether the id is a member. -/
def contains (set : IdSet) (id : UInt32) : Bool :=
  decide (id ∈ set)

/-- How many members there are. -/
def card (set : IdSet) : Nat :=
  set.toList.length

/-- The members that pass a test. -/
def filter (set : IdSet) (test : UInt32 → Bool) : IdSet :=
  ⟨set.toList.filter test, set.ascending.filter test⟩

/-- The members of both sets.  Those of the smaller one are looked up in the other. -/
def inter (a b : IdSet) : IdSet :=
  if a.card ≤ b.card then a.filter b.contains else b.filter a.contains

/-- The members of either set. -/
def union (a b : IdSet) : IdSet :=
  b.toList.foldl insert a

/-- The members of the first set that are not in the second. -/
def diff (a b : IdSet) : IdSet :=
  a.filter (!b.contains ·)

/-! ## Members -/

@[simp]
theorem not_mem_empty (id : UInt32) : id ∉ empty := by
  simp [mem_def, empty]

@[simp]
theorem mem_insert {set : IdSet} {id other : UInt32} :
    other ∈ set.insert id ↔ other = id ∨ other ∈ set :=
  mem_insertSorted

theorem mem_foldl_insert {ids : List UInt32} {set : IdSet} {id : UInt32} :
    id ∈ ids.foldl insert set ↔ id ∈ ids ∨ id ∈ set := by
  induction ids generalizing set with
  | nil => simp
  | cons first rest ih =>
    simp only [List.foldl_cons, ih, mem_insert, List.mem_cons]
    grind

@[simp]
theorem mem_ofList {ids : List UInt32} {id : UInt32} : id ∈ ofList ids ↔ id ∈ ids := by
  simp [ofList, mem_foldl_insert]

@[simp]
theorem contains_iff {set : IdSet} {id : UInt32} : set.contains id = true ↔ id ∈ set := by
  simp [contains]

@[simp]
theorem mem_filter {set : IdSet} {test : UInt32 → Bool} {id : UInt32} :
    id ∈ set.filter test ↔ id ∈ set ∧ test id = true := by
  simp [mem_def, filter]

@[simp]
theorem mem_inter {a b : IdSet} {id : UInt32} : id ∈ a.inter b ↔ id ∈ a ∧ id ∈ b := by
  rw [inter]
  split
  · rw [mem_filter, contains_iff]
  · rw [mem_filter, contains_iff]
    exact And.comm

@[simp]
theorem mem_union {a b : IdSet} {id : UInt32} : id ∈ a.union b ↔ id ∈ a ∨ id ∈ b := by
  rw [union, mem_foldl_insert, ← mem_def]
  exact Or.comm

@[simp]
theorem mem_diff {a b : IdSet} {id : UInt32} : id ∈ a.diff b ↔ id ∈ a ∧ id ∉ b := by
  rw [diff, mem_filter, Bool.not_eq_true', ← Bool.not_eq_true, contains_iff]

end IdSet

end Retrieval

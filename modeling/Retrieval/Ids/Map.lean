import Retrieval.Ids.Set

/-!
# Maps from ids

A finite map from 32-bit ids is the list of its entries in ascending order of ids.  It has one
operation that changes it, `alter`, and is seen through `get?`; the lemmas say what the one does to
the other.
-/

namespace Retrieval

/-- A finite map from ids, its entries listed in ascending order of ids. -/
@[ext]
structure IdMap (α : Type) where
  entries : List (UInt32 × α)
  ascending : (entries.map Prod.fst).Pairwise (· < ·)
  deriving DecidableEq

namespace IdMap

variable {α : Type}

/-! ## Alteration -/

/-- Replaces the value at an id of an ascending list of entries, in its place if it is new. -/
def alterSorted (id : UInt32) (change : Option α → α) : List (UInt32 × α) → List (UInt32 × α)
  | [] => [(id, change none)]
  | (first, value) :: rest =>
    if id < first then (id, change none) :: (first, value) :: rest
    else if id = first then (first, change (some value)) :: rest
    else (first, value) :: alterSorted id change rest

theorem map_fst_alterSorted (id : UInt32) (change : Option α → α) (entries : List (UInt32 × α)) :
    (alterSorted id change entries).map Prod.fst
      = IdSet.insertSorted id (entries.map Prod.fst) := by
  induction entries with
  | nil => rfl
  | cons entry rest ih =>
    obtain ⟨first, value⟩ := entry
    simp only [alterSorted, IdSet.insertSorted, List.map_cons]
    split
    · rfl
    · split
      · rfl
      · simp [ih]

/-! ## Operations -/

theorem ascending_nil : (([] : List (UInt32 × α)).map Prod.fst).Pairwise (· < ·) :=
  List.Pairwise.nil

/-- The map without entries. -/
def empty : IdMap α := ⟨[], ascending_nil⟩

instance : Inhabited (IdMap α) := ⟨empty⟩

/-- The value at an id. -/
def get? (map : IdMap α) (id : UInt32) : Option α :=
  map.entries.lookup id

/-- The map with the value at an id replaced by what `change` makes of it. -/
def alter (map : IdMap α) (id : UInt32) (change : Option α → α) : IdMap α :=
  ⟨alterSorted id change map.entries, by
    rw [map_fst_alterSorted]
    exact IdSet.insertSorted_ascending map.ascending⟩

/-- The map with every value replaced by what `change` makes of it. -/
def mapValues {β : Type} (map : IdMap α) (change : α → β) : IdMap β :=
  ⟨map.entries.map fun entry => (entry.1, change entry.2), by
    simpa [Function.comp_def] using map.ascending⟩

/-- The ids that have a value. -/
def keys (map : IdMap α) : IdSet :=
  ⟨map.entries.map Prod.fst, map.ascending⟩

/-- Whether the id has a value. -/
def contains (map : IdMap α) (id : UInt32) : Bool :=
  (map.get? id).isSome

/-- How many entries there are. -/
def size (map : IdMap α) : Nat :=
  map.entries.length

/-! ## Values -/

@[simp]
theorem get?_empty (id : UInt32) : (empty : IdMap α).get? id = none := rfl

theorem lookup_alterSorted {id other : UInt32} {change : Option α → α}
    {entries : List (UInt32 × α)} (h : (entries.map Prod.fst).Pairwise (· < ·)) :
    (alterSorted id change entries).lookup other
      = if other = id then some (change (entries.lookup id)) else entries.lookup other := by
  induction entries with
  | nil => by_cases hother : other = id <;> simp [alterSorted, hother]
  | cons entry rest ih =>
    obtain ⟨first, value⟩ := entry
    have hrest := List.pairwise_cons.1 h
    simp only [alterSorted]
    split
    · rename_i hlt
      have hlater : ∀ e ∈ (first, value) :: rest, e.1 ≠ id := by
        intro e he
        rcases List.mem_cons.1 he with rfl | he
        · exact (UInt32.ne_of_lt hlt).symm
        · exact (UInt32.ne_of_lt
            (UInt32.lt_trans hlt (hrest.1 e.1 (List.mem_map_of_mem he)))).symm
      have hnone : ((first, value) :: rest).lookup id = none := by
        rw [List.lookup_eq_none_iff]
        intro e he
        simpa using (hlater e he).symm
      by_cases hother : other = id
      · simp [hother, hnone]
      · have hother' : (other == id) = false := by simpa using hother
        rw [List.lookup_cons, hother', if_neg hother]
    · split
      · rename_i _ heq
        by_cases hother : other = id
        · simp [hother, heq]
        · subst heq
          have hother' : (other == id) = false := by simpa using hother
          simp only [List.lookup_cons, hother', if_neg hother]
      · rename_i _ hne
        by_cases hfirst : other = first
        · have : other ≠ id := fun hc => hne (hc ▸ hfirst)
          subst hfirst
          simp [this]
        · have hfirst' : (other == first) = false := by simpa using hfirst
          have hne' : (id == first) = false := by simpa using hne
          simp only [List.lookup_cons, hfirst', hne', ih hrest.2]

@[simp]
theorem get?_alter {map : IdMap α} {id other : UInt32} {change : Option α → α} :
    (map.alter id change).get? other
      = if other = id then some (change (map.get? id)) else map.get? other :=
  lookup_alterSorted map.ascending

end IdMap

end Retrieval

import Mathlib.Data.List.Sort
import Mathlib.Tactic.Common
import Retrieval.Ids.Map

/-!
# Sets and maps of ids are determined by what they hold

`IdSet` and `IdMap` list their members and entries in ascending order.  An ascending list is the
only ascending list of its members, so two sets with the same members are *equal*, not merely
equivalent, and likewise two maps with the same values.  This is what turns a statement about the
documents of a term into an equation between postings, and it is how the reading of a saved store
is shown to give back the very store that was written.

The main statements are `IdSet.ext_mem` and `IdMap.ext_get?`.  Beside them stand the reading
lemmas of the operations on maps that `Retrieval.Ids.Map` does not describe itself.
-/

namespace Retrieval

/-- An ascending list is determined by its members. -/
lemma eq_of_ascending {a b : List UInt32} (ha : a.Pairwise (· < ·)) (hb : b.Pairwise (· < ·))
    (hmem : ∀ id, id ∈ a ↔ id ∈ b) : a = b := by
  have hanodup : a.Nodup := ha.imp UInt32.ne_of_lt
  have hbnodup : b.Nodup := hb.imp UInt32.ne_of_lt
  have hperm : a.Perm b := (List.perm_ext_iff_of_nodup hanodup hbnodup).mpr hmem
  refine hperm.eq_of_pairwise ?_ ha hb
  intro x y _ _ hxy hyx
  exact absurd (UInt32.lt_trans hxy hyx) (UInt32.lt_irrefl x)

/-- A list with ascending keys is determined by its entries. -/
lemma eq_of_ascending_keys {α : Type} {a b : List (UInt32 × α)}
    (ha : (a.map Prod.fst).Pairwise (· < ·)) (hb : (b.map Prod.fst).Pairwise (· < ·))
    (hmem : ∀ entry, entry ∈ a ↔ entry ∈ b) : a = b := by
  have hanodup : a.Nodup := List.Nodup.of_map _ (ha.imp UInt32.ne_of_lt)
  have hbnodup : b.Nodup := List.Nodup.of_map _ (hb.imp UInt32.ne_of_lt)
  have hperm : a.Perm b := (List.perm_ext_iff_of_nodup hanodup hbnodup).mpr hmem
  refine hperm.eq_of_pairwise ?_ (List.pairwise_map.mp ha) (List.pairwise_map.mp hb)
  intro x y _ _ hxy hyx
  exact absurd (UInt32.lt_trans hxy hyx) (UInt32.lt_irrefl x.1)

namespace IdSet

/-- **Extensionality.**  A set of ids is determined by its members. -/
theorem ext_mem {a b : IdSet} (h : ∀ id, id ∈ a ↔ id ∈ b) : a = b :=
  IdSet.ext (eq_of_ascending a.ascending b.ascending h)

/-- An id above all others is put at the end. -/
lemma insertSorted_of_forall_lt {id : UInt32} {ids : List UInt32} (h : ∀ other ∈ ids, other < id) :
    insertSorted id ids = ids ++ [id] := by
  induction ids with
  | nil => rfl
  | cons first rest ih =>
    rw [List.forall_mem_cons] at h
    rw [insertSorted, if_neg (UInt32.lt_asymm h.1), if_neg (UInt32.ne_of_lt h.1).symm, ih h.2,
      List.cons_append]

/-- An ascending list is the listing of its own set. -/
lemma toList_ofList {ids : List UInt32} (h : ids.Pairwise (· < ·)) : (ofList ids).toList = ids :=
  eq_of_ascending (ofList ids).ascending h fun _ => mem_ofList

/-- A set has as many members as a list that names each of them once. -/
lemma card_eq_length {set : IdSet} {ids : List UInt32} (hnodup : ids.Nodup)
    (h : ∀ id, id ∈ set ↔ id ∈ ids) : set.card = ids.length :=
  ((List.perm_ext_iff_of_nodup (set.ascending.imp UInt32.ne_of_lt) hnodup).mpr h).length_eq

end IdSet

/-- In a list of pairs with distinct first components, looking up finds what is listed. -/
lemma lookup_eq_some_iff_mem {α β : Type} [BEq α] [LawfulBEq α] {entries : List (α × β)}
    (h : (entries.map Prod.fst).Nodup) {key : α} {value : β} :
    entries.lookup key = some value ↔ (key, value) ∈ entries := by
  induction entries with
  | nil => simp
  | cons entry rest ih =>
    obtain ⟨first, held⟩ := entry
    rw [List.map_cons, List.nodup_cons] at h
    by_cases hkey : key = first
    · subst hkey
      have hrest : (key, value) ∉ rest := fun hmem =>
        h.1 (List.mem_map.mpr ⟨(key, value), hmem, rfl⟩)
      simp [hrest, eq_comm]
    · have hne : (key == first) = false := by simpa using hkey
      rw [List.lookup_cons, hne, ih h.2]
      simp [hkey]

namespace IdMap

variable {α β : Type}

lemma nodup_keys (map : IdMap α) : (map.entries.map Prod.fst).Nodup :=
  map.ascending.imp UInt32.ne_of_lt

theorem get?_eq_some_iff {map : IdMap α} {id : UInt32} {value : α} :
    map.get? id = some value ↔ (id, value) ∈ map.entries :=
  lookup_eq_some_iff_mem map.nodup_keys

/-- **Extensionality.**  A map from ids is determined by its values. -/
theorem ext_get? {a b : IdMap α} (h : ∀ id, a.get? id = b.get? id) : a = b := by
  refine IdMap.ext (eq_of_ascending_keys a.ascending b.ascending ?_)
  rintro ⟨id, value⟩
  rw [← get?_eq_some_iff, ← get?_eq_some_iff, h]

/-- A map that never keeps the default is determined by its values with the default in place of
those that are missing. -/
lemma ext_getD {a b : IdMap α} {default : α}
    (ha : ∀ {id value}, a.get? id = some value → value ≠ default)
    (hb : ∀ {id value}, b.get? id = some value → value ≠ default)
    (h : ∀ id, (a.get? id).getD default = (b.get? id).getD default) : a = b := by
  refine ext_get? fun id => ?_
  have hid := h id
  cases hvalue : a.get? id with
  | none =>
    cases hvalue' : b.get? id with
    | none => rfl
    | some value =>
      rw [hvalue, hvalue'] at hid
      exact absurd hid.symm (hb hvalue')
  | some value =>
    cases hvalue' : b.get? id with
    | none =>
      rw [hvalue, hvalue'] at hid
      exact absurd hid (ha hvalue)
    | some value' =>
      rw [hvalue, hvalue'] at hid
      exact congrArg some hid

@[simp]
lemma mem_keys {map : IdMap α} {id : UInt32} : id ∈ map.keys ↔ (map.get? id).isSome = true := by
  rw [Option.isSome_iff_exists, IdSet.mem_def, keys]
  simp [get?_eq_some_iff]

@[simp]
lemma contains_iff {map : IdMap α} {id : UInt32} :
    map.contains id = true ↔ (map.get? id).isSome = true := Iff.rfl

@[simp]
lemma get?_mapValues {map : IdMap α} {change : α → β} {id : UInt32} :
    (map.mapValues change).get? id = (map.get? id).map change := by
  have key : ∀ entries : List (UInt32 × α),
      (entries.map fun entry => (entry.1, change entry.2)).lookup id
        = (entries.lookup id).map change := by
    intro entries
    induction entries with
    | nil => rfl
    | cons entry rest ih =>
      obtain ⟨first, value⟩ := entry
      by_cases hid : id = first
      · simp [hid]
      · have hne : (id == first) = false := by simpa using hid
        simp only [List.map_cons, List.lookup_cons, hne, ih]
  exact key map.entries

end IdMap

end Retrieval

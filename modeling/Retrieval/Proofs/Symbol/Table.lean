import Mathlib.Data.List.Basic
import Mathlib.Tactic.Common
import Retrieval.Distinct
import Retrieval.Proofs.Fault
import Retrieval.Proofs.Ids.Extensionality
import Retrieval.Symbol.Table

/-!
# Tables that number their keys

Both tables of an index are reversible, and both are only ever offered ids above all that they
hold, so that no probe goes on from them (`Ahead`).  Such a table is determined by its bindings in
the order of insertion: `listed` is that table, and inserting a new key puts one more binding at the
end (`insert_listed`).

The table of terms is still more special, since its ids have no gaps: `numbered keys` binds each key
to its place in a list of distinct keys, counted from 1.  Inserting a key it holds yields the
place of that key, and inserting a new one appends it to the list (`insert_numbered_of_mem`,
`insert_numbered_of_not_mem`).  Whatever is inserted, a key that was bound stays bound to its id:
the later table `Extends` the earlier one.
-/

namespace Retrieval.Symbol.Table

lemma lookup_eq_none {table : Table} {key : String} :
    table.lookup key = none ↔ key ∉ table.entries.map Prod.fst := by
  rw [lookup, List.lookup_eq_none_iff, List.mem_map, not_exists]
  refine forall_congr' fun entry => ?_
  rw [not_and, bne_iff_ne, ne_comm]

/-! ## Insertion -/

/-- **What an insertion can do**: leave a table with the key alone, or put a new binding at its end,
under the proposed id or, in a reversible table, under the one that the probe finds. -/
lemma insert_cases {table later : Table} {key : String} {proposed id : UInt32}
    (h : table.insert key proposed = .ok (id, later)) :
    (table.lookup key = some id ∧ later = table) ∨
    (table.lookup key = none ∧ table.mode = .forward ∧ id = proposed ∧
      later = { table with entries := table.entries ++ [(key, id)] }) ∨
    (table.lookup key = none ∧ table.mode = .reversible ∧
      leastFree? proposed table.byId = some id ∧
      later = { table with
        entries := table.entries ++ [(key, id)], byId := insertById id key table.byId }) := by
  unfold insert at h
  cases hlookup : table.lookup key with
  | some held =>
    rw [hlookup] at h
    cases h
    exact Or.inl ⟨rfl, rfl⟩
  | none =>
    rw [hlookup] at h
    cases hmode : table.mode with
    | forward =>
      simp only [hmode] at h
      cases h
      exact Or.inr (Or.inl ⟨rfl, rfl, rfl, rfl⟩)
    | reversible =>
      simp only [hmode] at h
      cases hfree : leastFree? proposed table.byId with
      | none =>
        rw [hfree] at h
        cases h
      | some free =>
        rw [hfree] at h
        cases h
        exact Or.inr (Or.inr ⟨rfl, rfl, rfl, rfl⟩)

/-! ## Extension -/

/-- Every binding of the first table stands in the second one. -/
def Extends (earlier later : Table) : Prop :=
  ∀ key id, earlier.lookup key = some id → later.lookup key = some id

lemma Extends.refl (table : Table) : table.Extends table :=
  fun _ _ h => h

lemma Extends.trans {a b c : Table} (hab : a.Extends b) (hbc : b.Extends c) : a.Extends c :=
  fun key id h => hbc key id (hab key id h)

lemma lookup_append {entries : List (String × UInt32)} {key other : String} {id : UInt32} :
    (entries ++ [(key, id)]).lookup other
      = (entries.lookup other).or (if other = key then some id else none) := by
  rw [List.lookup_append]
  by_cases hother : other = key
  · simp [hother]
  · have hne : (other == key) = false := by simpa using hother
    simp [List.lookup_cons, hne, hother]

/-- Inserting a key binds it and loses no binding. -/
theorem insert_extends {table later : Table} {key : String} {proposed id : UInt32}
    (h : table.insert key proposed = .ok (id, later)) :
    table.Extends later ∧ later.lookup key = some id := by
  have happended : table.lookup key = none → later.entries = table.entries ++ [(key, id)] →
      table.Extends later ∧ later.lookup key = some id := by
    intro hnone hentries
    refine ⟨fun other held hheld => ?_, ?_⟩
    · rw [lookup] at hheld ⊢
      rw [hentries, lookup_append, hheld, Option.some_or]
    · rw [lookup] at hnone ⊢
      rw [hentries, lookup_append, hnone, if_pos rfl, Option.none_or]
  rcases insert_cases h with ⟨hbound, rfl⟩ | ⟨hnew, -, -, rfl⟩ | ⟨hnew, -, -, rfl⟩
  · exact ⟨Extends.refl _, hbound⟩
  · exact happended hnew rfl
  · exact happended hnew rfl

/-- No insertion changes the mode of a table. -/
lemma mode_insert {table later : Table} {key : String} {proposed id : UInt32}
    (h : table.insert key proposed = .ok (id, later)) : later.mode = table.mode := by
  rcases insert_cases h with ⟨-, rfl⟩ | ⟨-, -, -, rfl⟩ | ⟨-, -, -, rfl⟩
  · rfl
  · rfl
  · rfl

/-! ## Bindings in ascending order of their ids -/

/-- The reversible table of bindings that were inserted in ascending order of their ids. -/
def listed (entries : List (String × UInt32)) : Table :=
  ⟨.reversible, entries, entries.map Prod.swap⟩

@[simp]
lemma mode_listed (entries : List (String × UInt32)) : (listed entries).mode = .reversible := rfl

@[simp]
lemma entries_listed (entries : List (String × UInt32)) : (listed entries).entries = entries := rfl

@[simp]
lemma byId_listed (entries : List (String × UInt32)) :
    (listed entries).byId = entries.map Prod.swap := rfl

@[simp]
lemma ids_listed (entries : List (String × UInt32)) :
    (listed entries).ids = entries.map Prod.snd := by
  simp [ids, Function.comp_def]

lemma leastFree?_of_forall_lt {id : UInt32} {pairs : List (UInt32 × String)}
    (h : ∀ pair ∈ pairs, pair.1 < id) : leastFree? id pairs = some id := by
  induction pairs with
  | nil => rfl
  | cons pair rest ih =>
    rw [List.forall_mem_cons] at h
    rw [leastFree?, if_pos h.1, ih h.2]

lemma insertById_of_forall_lt {id : UInt32} {key : String} {pairs : List (UInt32 × String)}
    (h : ∀ pair ∈ pairs, pair.1 < id) : insertById id key pairs = pairs ++ [(id, key)] := by
  induction pairs with
  | nil => rfl
  | cons pair rest ih =>
    rw [List.forall_mem_cons] at h
    rw [insertById, if_neg (UInt32.lt_asymm h.1), ih h.2, List.cons_append]

/-- A key that is bound already changes nothing. -/
lemma insert_of_lookup {table : Table} {key : String} {id : UInt32}
    (h : table.lookup key = some id) (proposed : UInt32) :
    table.insert key proposed = .ok (id, table) := by
  rw [insert, h]

/-- A new key under an id above all bound ones is put at the end. -/
theorem insert_listed {entries : List (String × UInt32)} {key : String} {id : UInt32}
    (hnew : entries.lookup key = none) (habove : ∀ entry ∈ entries, entry.2 < id) :
    (listed entries).insert key id = .ok (id, listed (entries ++ [(key, id)])) := by
  have hpairs : ∀ pair ∈ entries.map Prod.swap, pair.1 < id := by
    intro pair hpair
    obtain ⟨entry, hentry, rfl⟩ := List.mem_map.mp hpair
    exact habove entry hentry
  have hlookup : (listed entries).lookup key = none := hnew
  rw [insert, hlookup]
  simp only [mode_listed, byId_listed, leastFree?_of_forall_lt hpairs,
    insertById_of_forall_lt hpairs]
  simp [listed]

/-! ## Ids that are not probed for -/

/-- Whether an id stands above all bound ones, so that a new key takes it as it is proposed. -/
structure Ahead (table : Table) (next : UInt32) : Prop where
  above : ∀ id ∈ table.ids, id < next
  taken : ∀ key, table.lookup key = none → ∃ later, table.insert key next = .ok (next, later)

/-- **A probe for an id above all bound ones ends where it starts.** -/
theorem ahead_of_forall_lt {table : Table} {next : UInt32} (h : ∀ id ∈ table.ids, id < next) :
    table.Ahead next where
  above := h
  taken key hnew := by
    have hfree : leastFree? next table.byId = some next :=
      leastFree?_of_forall_lt fun pair hpair => h pair.1 (List.mem_map_of_mem hpair)
    unfold insert
    rw [hnew]
    cases hmode : table.mode with
    | forward => exact ⟨_, rfl⟩
    | reversible =>
      rw [hfree]
      exact ⟨_, rfl⟩

/-! ## Keys numbered by their places -/

/-- The place of a key in a list, counted from 1. -/
def idIn (keys : List String) (key : String) : UInt32 :=
  UInt32.ofNat (keys.idxOf key + 1)

/-- The table that binds each key of a list to its place. -/
def numbered (keys : List String) : Table :=
  listed (keys.map fun key => (key, idIn keys key))

lemma idIn_append_of_mem {keys : List String} {key : String} (h : key ∈ keys)
    (more : List String) : idIn (keys ++ more) key = idIn keys key := by
  rw [idIn, idIn, List.idxOf_append_of_mem h]

lemma idIn_append_singleton {keys : List String} {key : String} (h : key ∉ keys) :
    idIn (keys ++ [key]) key = UInt32.ofNat (keys.length + 1) := by
  rw [idIn, List.idxOf_append_of_notMem h]
  simp

lemma toNat_idIn {keys : List String} (hbound : keys.length + 1 < UInt32.size) (key : String) :
    (idIn keys key).toNat = keys.idxOf key + 1 := by
  have := List.idxOf_le_length (a := key) (l := keys)
  exact UInt32.toNat_ofNat_of_lt' (by omega)

/-- All places of a list are below its next one. -/
lemma idIn_lt {keys : List String} (hbound : keys.length + 1 < UInt32.size) {key : String}
    (h : key ∈ keys) : idIn keys key < UInt32.ofNat (keys.length + 1) := by
  have hplace := List.idxOf_lt_length_iff.mpr h
  rw [UInt32.lt_iff_toNat_lt, toNat_idIn hbound, UInt32.toNat_ofNat_of_lt' hbound]
  omega

/-- The ids of distinct keys run from 1 on without gaps. -/
theorem toNat_ids_numbered {keys : List String} (hbound : keys.length + 1 < UInt32.size)
    (hnodup : keys.Nodup) :
    (numbered keys).entries.map (·.2.toNat) = List.range' 1 keys.length := by
  rw [numbered, entries_listed, List.map_map]
  refine List.ext_getElem (by simp) fun place _ _ => ?_
  rw [List.getElem_map, Function.comp_apply, toNat_idIn hbound, List.getElem_range',
    hnodup.idxOf_getElem]
  omega

lemma idIn_inj {keys : List String} (hbound : keys.length + 1 < UInt32.size) {a b : String}
    (ha : a ∈ keys) (h : idIn keys a = idIn keys b) : a = b := by
  have hplaces : keys.idxOf a = keys.idxOf b := by
    have := congrArg UInt32.toNat h
    rw [toNat_idIn hbound, toNat_idIn hbound] at this
    omega
  exact (List.idxOf_inj ha).mp hplaces

lemma lookup_map_of_mem {keys : List String} {key : String} (f : String → UInt32)
    (h : key ∈ keys) : (keys.map fun key => (key, f key)).lookup key = some (f key) := by
  induction keys with
  | nil => simp at h
  | cons first rest ih =>
    by_cases hkey : key = first
    · simp [hkey]
    · have hne : (key == first) = false := by simpa using hkey
      rw [List.map_cons, List.lookup_cons, hne]
      exact ih (List.mem_of_ne_of_mem hkey h)

lemma lookup_map_of_not_mem {keys : List String} {key : String} (f : String → UInt32)
    (h : key ∉ keys) : (keys.map fun key => (key, f key)).lookup key = none := by
  rw [List.lookup_eq_none_iff]
  intro entry hentry
  obtain ⟨other, hother, rfl⟩ := List.mem_map.mp hentry
  simpa using fun hkey : key = other => h (hkey ▸ hother)

/-- Looking up a key of a numbered table tells its place. -/
theorem lookup_numbered {keys : List String} {key : String} {id : UInt32} :
    (numbered keys).lookup key = some id ↔ key ∈ keys ∧ idIn keys key = id := by
  by_cases h : key ∈ keys
  · rw [show (numbered keys).lookup key = some (idIn keys key) from lookup_map_of_mem _ h]
    simp [h]
  · rw [show (numbered keys).lookup key = none from lookup_map_of_not_mem _ h]
    simp [h]

/-- Different keys have different places. -/
lemma eq_of_lookup_numbered {keys : List String} (hbound : keys.length + 1 < UInt32.size)
    {a b : String} {id : UInt32} (ha : (numbered keys).lookup a = some id)
    (hb : (numbered keys).lookup b = some id) : a = b := by
  obtain ⟨hmem, rfl⟩ := lookup_numbered.mp ha
  exact idIn_inj hbound hmem (lookup_numbered.mp hb).2.symm

lemma insert_numbered_of_mem {keys : List String} {key : String} (h : key ∈ keys)
    (proposed : UInt32) :
    (numbered keys).insert key proposed = .ok (idIn keys key, numbered keys) :=
  insert_of_lookup (lookup_numbered.mpr ⟨h, rfl⟩) proposed

lemma insert_numbered_of_not_mem {keys : List String} {key : String} (h : key ∉ keys)
    (hbound : keys.length + 1 < UInt32.size) :
    (numbered keys).insert key (UInt32.ofNat (keys.length + 1))
      = .ok (UInt32.ofNat (keys.length + 1), numbered (keys ++ [key])) := by
  have hfresh : (keys.map fun key => (key, idIn keys key)).lookup key = none :=
    lookup_map_of_not_mem _ h
  have habove : ∀ entry ∈ keys.map fun key => (key, idIn keys key),
      entry.2 < UInt32.ofNat (keys.length + 1) := by
    intro entry hentry
    obtain ⟨other, hother, rfl⟩ := List.mem_map.mp hentry
    exact idIn_lt hbound hother
  have hplaces : (keys.map fun other => (other, idIn (keys ++ [key]) other))
      = keys.map fun other => (other, idIn keys other) :=
    List.map_congr_left fun other hother => by rw [idIn_append_of_mem hother]
  rw [numbered, insert_listed hfresh habove, numbered, List.map_append, hplaces, List.map_singleton,
    idIn_append_singleton h]

end Retrieval.Symbol.Table

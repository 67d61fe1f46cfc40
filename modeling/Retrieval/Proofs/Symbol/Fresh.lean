import Mathlib.Data.List.TakeWhile
import Mathlib.Tactic.Common
import Retrieval.Proofs.Symbol.Probing

/-!
# The next free id

`Table.nextFree` is read off the bindings, and an insertion looks for a free id among the ascending
pairs.  The two meet in the invariant: the ids of the pairs are bound, so an id above all bound ones
is above all pairs, and the first search for it ends behind the last pair (`search_of_forall_lt`).

Ids end with `lastId`, and nothing is above that one.  So the next free id is above all bound ones,
and the least such id, as long as `lastId` is not bound; once it is, the next free id is `lastId`
again, which is not free (`Coherent.nextFree_cases`).  A reversible table then takes no new key
under it, and a forward table, which lets keys share an id, binds the key to it all the same.  All
this is told by `NumbersNext`.
-/

namespace Retrieval.Symbol.Table

/-! ## The last id -/

/-- The greatest id that there is. -/
def lastId : UInt32 := 4294967295

lemma le_lastId (id : UInt32) : id ≤ lastId := by
  have hid := id.toNat_lt
  have hlast : lastId.toNat = 4294967295 := rfl
  rw [UInt32.le_iff_toNat_le]
  omega

lemma succ_lt_size_iff {id : UInt32} : id.toNat + 1 < UInt32.size ↔ id ≠ lastId := by
  constructor
  · rintro hlt rfl
    exact absurd hlt (by decide)
  · intro hne
    by_contra hlast
    exact hne (eq_of_le_greatest hlast (le_lastId id)).symm

instance : Std.LawfulOrderMax UInt32 where
  max_eq_or a b := by
    rw [UInt32.max_def]
    split
    · exact Or.inr rfl
    · exact Or.inl rfl
  max_le_iff a b c := by
    rw [UInt32.max_def]
    split
    · rename_i hle
      exact ⟨fun hb => ⟨UInt32.le_trans hle hb, hb⟩, And.right⟩
    · rename_i hgt
      have hle : b ≤ a := (UInt32.le_total a b).resolve_left hgt
      exact ⟨fun ha => ⟨ha, UInt32.le_trans hle ha⟩, And.left⟩

/-! ## The least id above all bound ones -/

variable {table : Table} {pairs : List (UInt32 × String)} {key : String} {id : UInt32}

lemma nextFree_of_greatest {greatest : UInt32}
    (h : (table.entries.map Prod.snd).max? = some greatest) :
    table.nextFree = if greatest = lastId then lastId else greatest + 1 := by
  rw [nextFree, h]
  by_cases hlast : greatest = lastId
  · rw [if_pos hlast, hlast]
    exact if_neg (by decide)
  · rw [if_neg hlast]
    exact if_pos (succ_lt_size_iff.mpr hlast)

namespace Coherent

/-- The ids of the bindings are those that keys are bound to. -/
lemma binds_iff (h : table.Coherent) : table.Binds id ↔ id ∈ table.entries.map Prod.snd := by
  rw [List.mem_map]
  constructor
  · rintro ⟨key, hkey⟩
    exact ⟨(key, id), (lookup_eq_some_iff_mem h.keys).mp hkey, rfl⟩
  · rintro ⟨entry, hentry, rfl⟩
    exact ⟨entry.1, (lookup_eq_some_iff_mem h.keys).mpr hentry⟩

/-- The id of a pair is bound, and a forward table has no pairs. -/
lemma binds_of_mem_ids (h : table.Coherent) (hid : id ∈ table.ids) : table.Binds id := by
  cases hmode : table.mode with
  | reversible => exact (h.mem_ids hmode).mp hid
  | forward =>
    rw [ids, h.forward hmode] at hid
    cases hid

/-- **What the next free id is**: the last id, if that is bound, and otherwise the least id above
all bound ones. -/
theorem nextFree_cases (h : table.Coherent) :
    (table.Binds lastId ∧ table.nextFree = lastId) ∨
    (¬ table.Binds lastId ∧ (∀ id, table.Binds id → id < table.nextFree) ∧
      ∀ id, (∀ bound, table.Binds bound → bound < id) → table.nextFree ≤ id) := by
  cases hmax : (table.entries.map Prod.snd).max? with
  | none =>
    have hunbound : ∀ id, ¬ table.Binds id := by
      intro id hid
      rw [h.binds_iff, List.max?_eq_none_iff.mp hmax] at hid
      cases hid
    have hzero : table.nextFree = 0 := by
      rw [nextFree, hmax]
    refine Or.inr ⟨hunbound lastId, fun id hid => absurd hid (hunbound id), fun id _ => ?_⟩
    rw [hzero]
    exact UInt32.zero_le
  | some greatest =>
    obtain ⟨hmem, hle⟩ := List.max?_eq_some_iff.mp hmax
    have hbound : table.Binds greatest := h.binds_iff.mpr hmem
    rw [nextFree_of_greatest hmax]
    by_cases hlast : greatest = lastId
    · rw [if_pos hlast]
      rw [hlast] at hbound
      exact Or.inl ⟨hbound, rfl⟩
    · rw [if_neg hlast]
      have hnext : greatest.toNat + 1 < UInt32.size := succ_lt_size_iff.mpr hlast
      refine Or.inr ⟨fun hid => ?_, fun id hid => ?_, fun id hid => ?_⟩
      · have hlastle : lastId ≤ greatest := hle lastId (h.binds_iff.mp hid)
        exact hlast (UInt32.le_antisymm (le_lastId greatest) hlastle)
      · have hidle : id ≤ greatest := hle id (h.binds_iff.mp hid)
        exact UInt32.lt_of_le_of_lt hidle ((succ_le_iff hnext).mp (UInt32.le_refl _))
      · exact (succ_le_iff hnext).mpr (hid greatest hbound)

lemma lt_nextFree (h : table.Coherent) (hroom : ¬ table.Binds lastId) (hid : table.Binds id) :
    id < table.nextFree := by
  rcases h.nextFree_cases with ⟨hlast, -⟩ | ⟨-, habove, -⟩
  · exact absurd hlast hroom
  · exact habove id hid

lemma nextFree_of_binds_lastId (h : table.Coherent) (hlast : table.Binds lastId) :
    table.nextFree = lastId := by
  rcases h.nextFree_cases with ⟨-, hnext⟩ | ⟨hroom, -⟩
  · exact hnext
  · exact absurd hlast hroom

/-- The next free id is above all bound ones exactly if the last id is not bound. -/
lemma forall_lt_nextFree_iff (h : table.Coherent) :
    (∀ id, table.Binds id → id < table.nextFree) ↔ ¬ table.Binds lastId := by
  refine ⟨fun habove hlast => ?_, fun hroom id => h.lt_nextFree hroom⟩
  have hlt : lastId < table.nextFree := habove lastId hlast
  exact UInt32.not_lt.mpr (le_lastId table.nextFree) hlt

/-- An id above all bound ones is not below the next free one. -/
lemma nextFree_le (h : table.Coherent) (hid : ∀ bound, table.Binds bound → bound < id) :
    table.nextFree ≤ id := by
  rcases h.nextFree_cases with ⟨hlast, -⟩ | ⟨-, -, hleast⟩
  · exact absurd (hid lastId hlast) (UInt32.not_lt.mpr (le_lastId id))
  · exact hleast id hid

end Coherent

/-! ## A new key under the next free id -/

/-- A search for an id above all pairs ends behind them. -/
lemma search_of_forall_lt (h : ∀ pair ∈ pairs, pair.1 < id) :
    search id pairs = .error pairs.length := by
  have hslot : slotOf id pairs = pairs.length := by
    rw [slotOf, List.takeWhile_eq_self_iff.mpr fun pair hpair => decide_eq_true (h pair hpair)]
  have hmissing : (pairs.map Prod.fst)[pairs.length]? = none := by
    rw [List.getElem?_eq_none_iff, List.length_map]
  simp only [search, hslot, hmissing, reduceCtorEq, if_false]

namespace Coherent

lemma search_nextFree (h : table.Coherent) (hroom : ¬ table.Binds lastId) :
    search table.nextFree table.byId = .error table.byId.length := by
  apply search_of_forall_lt
  intro pair hpair
  exact h.lt_nextFree hroom (h.binds_of_mem_ids (List.mem_map_of_mem hpair))

/-- A table with room, or one that lets keys share an id, binds a new key to the next free id. -/
lemma exists_insert_nextFree (h : table.Coherent) (hnew : table.lookup key = none)
    (hroom : table.mode = .forward ∨ ¬ table.Binds lastId) :
    ∃ later, table.insert key table.nextFree = .ok (table.nextFree, later) := by
  rcases hroom with hforward | hroom
  · rw [Table.insert, hnew, hforward]
    exact ⟨_, rfl⟩
  · have hahead : table.Ahead table.nextFree :=
      ahead_of_forall_lt fun id hid => h.lt_nextFree hroom (h.binds_of_mem_ids hid)
    exact hahead.taken key hnew

/-- No id from the next free one on is left exactly if the last id is bound. -/
lemma forall_mem_ids_iff (h : table.Coherent) (hmode : table.mode = .reversible) :
    (∀ id, table.nextFree ≤ id → id ∈ table.ids) ↔ table.Binds lastId := by
  constructor
  · intro htaken
    exact h.binds_of_mem_ids (htaken lastId (le_lastId table.nextFree))
  · intro hlast id hid
    rw [h.nextFree_of_binds_lastId hlast] at hid
    rw [UInt32.le_antisymm (le_lastId id) hid]
    exact (h.mem_ids hmode).mpr hlast

/-- A new key cannot be bound under the next free id exactly if the table keeps ids apart and the
last id is bound. -/
lemma insert_nextFree_eq_error (h : table.Coherent) (hnew : table.lookup key = none)
    {fault : Fault} :
    table.insert key table.nextFree = .error fault ↔
      fault = .idsExhausted ∧ table.mode = .reversible ∧ table.Binds lastId := by
  rw [h.insert_eq_error]
  constructor
  · rintro ⟨hfault, hmode, -, htaken⟩
    exact ⟨hfault, hmode, (h.forall_mem_ids_iff hmode).mp htaken⟩
  · rintro ⟨hfault, hmode, hlast⟩
    exact ⟨hfault, hmode, hnew, (h.forall_mem_ids_iff hmode).mpr hlast⟩

end Coherent

/-- What the next free id of a table is, and what becomes of a new key that is offered under it. -/
structure NumbersNext (mode : Mode) (table : Table) : Prop where
  /-- A table without bindings begins with 0. -/
  zero : table.entries = [] → table.nextFree = 0
  /-- The id is above all bound ones exactly if the last id is not bound. -/
  above : (∀ id, table.Binds id → id < table.nextFree) ↔ ¬ table.Binds lastId
  /-- No lower id is above all bound ones. -/
  least : ∀ id, (∀ bound, table.Binds bound → bound < id) → table.nextFree ≤ id
  /-- If the last id is bound, the next free id is that one. -/
  last : table.Binds lastId → table.nextFree = lastId
  /-- A new key is bound to exactly this id and comes last, in place as well, unless the table keeps
  ids apart and the last id is bound. -/
  taken : ∀ key, table.lookup key = none → mode = .forward ∨ ¬ table.Binds lastId →
    ∃ later, table.insert key table.nextFree = .ok (table.nextFree, later) ∧
      later.entries = table.entries ++ [(key, table.nextFree)] ∧
      (insertInPlace key table.nextFree).run.run table = (.ok table.nextFree, later)
  /-- No probe goes on from it: the first search ends behind all pairs. -/
  unprobed : ¬ table.Binds lastId → search table.nextFree table.byId = .error table.byId.length
  /-- An insertion of a new key stops exactly if the table keeps ids apart and the last id is
  bound. -/
  stops : ∀ key, table.lookup key = none → ∀ fault,
    table.insert key table.nextFree = .error fault ↔
      fault = .idsExhausted ∧ mode = .reversible ∧ table.Binds lastId

/-- **The next free id is free unless the last id is bound**, in a table of any run. -/
theorem next_free_id_is_free_unless_last_is_bound {mode : Mode} {table : Table}
    (h : Reachable mode table) : table.NumbersNext mode := by
  obtain ⟨hcoherent, rfl⟩ := h.coherent
  refine ⟨fun hentries => ?_, hcoherent.forall_lt_nextFree_iff, fun id => hcoherent.nextFree_le,
    hcoherent.nextFree_of_binds_lastId, fun key hnew hroom => ?_, hcoherent.search_nextFree,
    fun key hnew fault => hcoherent.insert_nextFree_eq_error hnew⟩
  · rw [nextFree, hentries]
    rfl
  · obtain ⟨later, hinsert⟩ := hcoherent.exists_insert_nextFree hnew hroom
    refine ⟨later, hinsert, entries_of_insert hnew hinsert, ?_⟩
    rw [run_insertInPlace hcoherent, offer, hinsert]
    rfl

/-- Ids that were probed for up to the one before the last, with a gap below them: the last id is
the next free one, and is taken by a new key. -/
theorem last_id_is_taken_behind_a_probe :
    let table := (empty .reversible).offerAll
      [("a", 7), ("b", 4294967293), ("c", 4294967293), ("d", 0)]
    table.nextFree = lastId ∧ (table.insert "e" table.nextFree).map Prod.fst = .ok lastId ∧
      table.NumbersNext .reversible := by
  intro table
  exact ⟨by decide +kernel, by decide +kernel,
    next_free_id_is_free_unless_last_is_bound (Reachable.empty.offerAll _)⟩

/-- A key under the last id: the next free id is the same one, so it is not above all bound ids.  A
table that keeps ids apart then takes no new key under it, and another one gives two keys one id. -/
theorem no_id_is_free_behind_the_last :
    let apart := (empty .reversible).offer "a" lastId
    let shared := (empty .forward).offer "a" lastId
    (Reachable .reversible apart ∧ ¬ (∀ id, apart.Binds id → id < apart.nextFree) ∧
      apart.lookup "b" = none ∧ apart.insert "b" apart.nextFree = .error .idsExhausted) ∧
    (Reachable .forward shared ∧ ¬ (∀ id, shared.Binds id → id < shared.nextFree) ∧
      shared.lookup "b" = none ∧
      (shared.offer "b" shared.nextFree).entries = [("a", lastId), ("b", lastId)]) := by
  intro apart shared
  have hreach : ∀ mode, Reachable mode ((empty mode).offer "a" lastId) :=
    fun mode => Reachable.empty.offer "a" lastId
  refine ⟨⟨hreach .reversible, fun habove => ?_, by decide +kernel, by decide +kernel⟩,
    ⟨hreach .forward, fun habove => ?_, by decide +kernel, by decide +kernel⟩⟩
  · exact absurd (habove lastId ⟨"a", by decide +kernel⟩) (by decide +kernel)
  · exact absurd (habove lastId ⟨"a", by decide +kernel⟩) (by decide +kernel)

end Retrieval.Symbol.Table

import Mathlib.Tactic.Common
import Retrieval.Proofs.Symbol.Decoding

/-!
# Tables over every run

A table that a program can hold was empty or was read from some octets, and since then keys were
offered to it in any order and under any ids.  An offer that stops leaves the table as it was.
`Reachable` are the tables of all such runs; they all obey the invariant (`Reachable.coherent`).

What a table knows is kept in three views of it (`Views`): which id a key has, in which order the
keys came, and which key an id has.  An insertion brings each view up to date by itself
(`views_insert`), so nothing but the rules of insertion keeps them together.  That it does is
`views_agree_after_every_run`.
-/

namespace Retrieval.Symbol

/-! ## The views of a table -/

/-- The ids of keys, the keys in the order of insertion, and the pairs in the order of ids. -/
structure Views where
  idOf : String → Option UInt32
  order : List String
  byId : List (UInt32 × String)

namespace Views

/-- A new key gets its id, and comes last. -/
def bind (views : Views) (key : String) (id : UInt32) : Views :=
  { views with
    idOf := fun other => if other = key then some id else views.idOf other
    order := views.order ++ [key] }

/-- Binds a key in each view by itself. -/
def insert (mode : Mode) (views : Views) (key : String) (proposed : UInt32) :
    Except Fault (UInt32 × Views) :=
  match views.idOf key with
  | some id => .ok (id, views)
  | none =>
    match mode with
    | .forward => .ok (proposed, views.bind key proposed)
    | .reversible =>
      match Table.leastFree? proposed views.byId with
      | none => .error .idsExhausted
      | some id => .ok (id, { views.bind key id with byId := Table.insertById id key views.byId })

/-- The keys in the order of insertion, each with the id that is found for it, if one is found for
every key. -/
def iterate? (views : Views) : Option (List (String × UInt32)) :=
  views.order.mapM fun key => (views.idOf key).map (key, ·)

/-- The views tell of the same bindings: the order has each bound key once and no other key, and the
pairs, which ascend strictly, are the bindings of a table that keeps ids apart; another table has no
pairs. -/
structure Agree (mode : Mode) (views : Views) : Prop where
  once : views.order.Nodup
  bound : ∀ key, key ∈ views.order ↔ ∃ id, views.idOf key = some id
  ascending : mode = .reversible → views.byId.Pairwise (·.1 < ·.1)
  pairs : mode = .reversible → ∀ id key, (id, key) ∈ views.byId ↔ views.idOf key = some id
  apart : mode = .reversible → ∀ key other id, views.idOf key = some id →
    views.idOf other = some id → key = other
  forward : mode = .forward → views.byId = []

end Views

namespace Table

/-- The views of a table. -/
def views (table : Table) : Views :=
  ⟨table.lookup, table.entries.map Prod.fst, table.byId⟩

lemma views_append {table : Table} {key : String} (hnew : table.lookup key = none) (id : UInt32)
    (byId : List (UInt32 × String)) :
    (⟨table.mode, table.entries ++ [(key, id)], byId⟩ : Table).views
      = { table.views.bind key id with byId } := by
  have hids : (⟨table.mode, table.entries ++ [(key, id)], byId⟩ : Table).lookup
      = (table.views.bind key id).idOf := by
    funext other
    change (table.entries ++ [(key, id)]).lookup other
      = if other = key then some id else table.lookup other
    rw [lookup_append, ← lookup]
    split
    · rename_i hother
      rw [hother, hnew, Option.none_or]
    · exact Option.or_none
  rw [views, hids, List.map_append]
  rfl

/-- **An insertion** is one into each view. -/
theorem views_insert (table : Table) (key : String) (proposed : UInt32) :
    table.views.insert table.mode key proposed
      = (table.insert key proposed).map fun inserted => (inserted.1, inserted.2.views) := by
  have hids : table.views.idOf key = table.lookup key := rfl
  unfold Views.insert Table.insert
  rw [hids]
  cases hlookup : table.lookup key with
  | some id => rfl
  | none =>
    cases hmode : table.mode with
    | forward =>
      have hbound := views_append hlookup proposed table.byId
      rw [hmode] at hbound
      exact congrArg (fun views => Except.ok (proposed, views)) hbound.symm
    | reversible =>
      have hpairs : table.views.byId = table.byId := rfl
      simp only [hpairs]
      cases hfree : leastFree? proposed table.byId with
      | none => rfl
      | some id =>
        have hbound := views_append hlookup id (insertById id key table.byId)
        rw [hmode] at hbound
        exact congrArg (fun views => Except.ok (id, views)) hbound.symm

/-! ## Runs -/

/-- The table after a key was offered to it; it is the same table if the insertion stops. -/
def offer (table : Table) (key : String) (proposed : UInt32) : Table :=
  match table.insert key proposed with
  | .ok (_, later) => later
  | .error _ => table

/-- The table after keys were offered to it one after the other. -/
def offerAll (table : Table) (calls : List (String × UInt32)) : Table :=
  calls.foldl (fun table call => table.offer call.1 call.2) table

/-- The tables of all runs in a mode. -/
inductive Reachable (mode : Mode) : Table → Prop
  | empty : Reachable mode (.empty mode)
  | read {octets : List UInt8} {table : Table} : decode mode octets = .ok table →
    Reachable mode table
  | offer {table : Table} (key : String) (proposed : UInt32) : Reachable mode table →
    Reachable mode (table.offer key proposed)

lemma Reachable.offerAll {mode : Mode} {table : Table} (h : Reachable mode table)
    (calls : List (String × UInt32)) : Reachable mode (table.offerAll calls) := by
  induction calls generalizing table with
  | nil => exact h
  | cons call rest ih => exact ih (h.offer call.1 call.2)

lemma offer_cases (table : Table) (key : String) (proposed : UInt32) :
    table.offer key proposed = table ∨
      ∃ id, table.insert key proposed = .ok (id, table.offer key proposed) := by
  rw [offer]
  cases table.insert key proposed with
  | error fault => exact Or.inl rfl
  | ok inserted => exact Or.inr ⟨inserted.1, rfl⟩

/-- **Every table of a run** obeys the invariant. -/
theorem Reachable.coherent {mode : Mode} {table : Table} (h : Reachable mode table) :
    table.Coherent ∧ table.mode = mode := by
  induction h with
  | empty => exact ⟨Coherent.empty mode, rfl⟩
  | read hread => exact coherent_of_decode hread
  | @offer table key proposed _ ih =>
    rcases table.offer_cases key proposed with hsame | ⟨id, hinsert⟩
    · rwa [hsame]
    · exact ⟨ih.1.insert hinsert, (mode_insert hinsert).trans ih.2⟩

/-- No offer takes a binding away. -/
lemma extends_offer (table : Table) (key : String) (proposed : UInt32) :
    table.Extends (table.offer key proposed) := by
  rcases table.offer_cases key proposed with hsame | ⟨id, hinsert⟩
  · rw [hsame]
    exact Extends.refl table
  · exact (insert_extends hinsert).1

lemma extends_offerAll (table : Table) (calls : List (String × UInt32)) :
    table.Extends (table.offerAll calls) := by
  induction calls generalizing table with
  | nil => exact Extends.refl table
  | cons call rest ih => exact (table.extends_offer call.1 call.2).trans (ih _)

/-! ## What holds after every run -/

/-- The keys in their order, with the ids that are found for them, are the entries. -/
lemma Coherent.iterate?_views {table : Table} (h : table.Coherent) :
    table.views.iterate? = some table.entries := by
  have hfound : (table.entries.map Prod.fst).map (fun key => (table.lookup key).map (key, ·))
      = table.entries.map some := by
    rw [List.map_map]
    refine List.map_congr_left fun entry hentry => ?_
    have hlookup : table.lookup entry.1 = some entry.2 :=
      (lookup_eq_some_iff_mem h.keys).mpr hentry
    rw [Function.comp_apply, hlookup]
    rfl
  exact mapM_eq_some.mpr hfound

/-- The views of a table that obeys the invariant tell of the same bindings. -/
lemma Coherent.agree_views {table : Table} (h : table.Coherent) : table.views.Agree table.mode where
  once := h.keys
  bound key := by
    change key ∈ table.entries.map Prod.fst ↔ _
    rw [← not_iff_not, ← lookup_eq_none, ← Option.isSome_iff_exists, Option.not_isSome_iff_eq_none]
    rfl
  ascending _ := List.pairwise_map.mp h.ascending
  pairs hmode id key := by
    exact (lookup_eq_some_iff_mem h.nodup_ids).symm.trans (h.lookup_byId hmode)
  apart hmode key other id hkey hother :=
    Option.some.inj (((h.lookup_byId hmode).mpr hkey).symm.trans ((h.lookup_byId hmode).mpr hother))
  forward := h.forward

/-- **The views agree after every run.**  The order of insertion has each bound key once and no
other key, so that every key in it is found with its id.  No key that was bound ever gets another id.
A table that keeps ids apart has exactly its bindings in ascending order of their ids, and answers
for an id with the key that is bound to it.  And every further insertion is one into each view. -/
theorem views_agree_after_every_run {mode : Mode} {table : Table} (h : Reachable mode table) :
    table.views.Agree mode ∧
      table.views.iterate? = some table.entries ∧
      (∀ calls, table.Extends (table.offerAll calls)) ∧
      (mode = .reversible → ∀ id, ∃ key?, table.reverse? id = .ok key? ∧
        ∀ key, key? = some key ↔ table.lookup key = some id) ∧
      ∀ key proposed, table.views.insert mode key proposed
        = (table.insert key proposed).map fun inserted => (inserted.1, inserted.2.views) := by
  obtain ⟨hcoherent, rfl⟩ := h.coherent
  refine ⟨hcoherent.agree_views, hcoherent.iterate?_views, table.extends_offerAll,
    fun hmode id => ⟨table.byId.lookup id, ?_, fun key => hcoherent.lookup_byId hmode⟩,
    table.views_insert⟩
  rw [reverse?, hmode]

/-- Ids that collide, a key that is offered again, and an offer from which on no id is free. -/
theorem views_agree_after_collisions :
    let table := (empty .reversible).offerAll
      [("a", 4294967295), ("b", 4294967294), ("c", 4294967294), ("a", 7), ("d", 0), ("e", 0)]
    table.entries = [("a", 4294967295), ("b", 4294967294), ("d", 0), ("e", 1)] ∧
      table.views.Agree .reversible ∧
      table.views.iterate? = some table.entries ∧
      (∀ calls, table.Extends (table.offerAll calls)) ∧
      (Mode.reversible = .reversible → ∀ id, ∃ key?, table.reverse? id = .ok key? ∧
        ∀ key, key? = some key ↔ table.lookup key = some id) ∧
      ∀ key proposed, table.views.insert .reversible key proposed
        = (table.insert key proposed).map fun inserted => (inserted.1, inserted.2.views) := by
  intro table
  exact ⟨by decide +kernel, views_agree_after_every_run (Reachable.empty.offerAll _)⟩

end Table

end Retrieval.Symbol

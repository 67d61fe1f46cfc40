import Mathlib.Data.List.TakeWhile
import Mathlib.Tactic.Common
import Retrieval.Proofs.Symbol.Runs

/-!
# Insertion in place

`Table.insert` yields a new table or stops, so a stop cannot leave a table half changed.  A program
changes one table in place, one view after the other, and what it has changed when it stops stays
changed.  `insertInPlace` is the insertion in these terms: it probes the ids one after the other,
each by a search among the ascending pairs, puts the pair in at the slot where the last search ended,
and then binds the key.

A search among ascending pairs finds an id exactly if it is taken (`getElem?_slotOf`), so the probe
ends at the least free id (`probe_eq`); and the slot where it ended is the place of the new pair
(`insertById_eq_insertIdx`).  So the two insertions come to the same, and one that stops has changed
nothing (`run_insertInPlace`).  All that becomes of a table of any run, and in place as well, is told
by `TakesLeastFree`.
-/

namespace Retrieval.Symbol.Table

/-! ## Searching and probing -/

/-- The slot of an id among ascending pairs: how many of them have lower ids. -/
def slotOf (id : UInt32) (pairs : List (UInt32 × String)) : Nat :=
  (pairs.takeWhile (·.1 < id)).length

/-- Searches ascending pairs for an id: the slot where it stands or, as an error, the one where it
is missing. -/
def search (id : UInt32) (pairs : List (UInt32 × String)) : Except Nat Nat :=
  let slot := slotOf id pairs
  if (pairs.map Prod.fst)[slot]? = some id then .ok slot else .error slot

/-- Searches for the ids one after the other, from the given one on, until one is missing. -/
def probe (pairs : List (UInt32 × String)) (id : UInt32) : Except Fault (UInt32 × Nat) :=
  match search id pairs with
  | .ok _ => if id.toNat + 1 < UInt32.size then probe pairs (id + 1) else .error .idsExhausted
  | .error slot => .ok (id, slot)
termination_by UInt32.size - id.toNat
decreasing_by
  have hnext : (id + 1).toNat = id.toNat + 1 := by
    rw [UInt32.toNat_add]
    exact Nat.mod_eq_of_lt ‹_›
  omega

variable {pairs : List (UInt32 × String)} {id proposed : UInt32} {key : String}

lemma getElem?_slotOf (h : (pairs.map Prod.fst).Pairwise (· < ·)) :
    (pairs.map Prod.fst)[slotOf id pairs]? = some id ↔ id ∈ pairs.map Prod.fst := by
  refine ⟨List.mem_of_getElem?, fun hmem => ?_⟩
  induction pairs with
  | nil => cases hmem
  | cons pair rest ih =>
    rw [List.map_cons, List.pairwise_cons] at h
    rw [List.map_cons, List.mem_cons] at hmem
    rcases hmem with rfl | hmem
    · rw [slotOf, List.takeWhile_cons_of_neg (by simp)]
      rfl
    · rw [slotOf, List.takeWhile_cons_of_pos (by simpa using h.1 id hmem)]
      exact ih h.2 hmem

/-- **A search finds an id** exactly if it is taken. -/
lemma search_eq (h : (pairs.map Prod.fst).Pairwise (· < ·)) :
    search id pairs =
      if id ∈ pairs.map Prod.fst then .ok (slotOf id pairs) else .error (slotOf id pairs) := by
  simp only [search, getElem?_slotOf h]

lemma mem_of_search {slot : Nat} (h : search id pairs = .ok slot) : id ∈ pairs.map Prod.fst := by
  rw [search] at h
  split at h
  · rename_i hfound
    exact List.mem_of_getElem? hfound
  · cases h

/-- The slot of an id that is not among the pairs is where it is put. -/
lemma insertById_eq_insertIdx (h : id ∉ pairs.map Prod.fst) :
    insertById id key pairs = pairs.insertIdx (slotOf id pairs) (id, key) := by
  induction pairs with
  | nil => rfl
  | cons pair rest ih =>
    obtain ⟨bound, other⟩ := pair
    rw [List.map_cons, List.mem_cons, not_or] at h
    rw [insertById]
    split
    · rename_i hlt
      rw [slotOf, List.takeWhile_cons_of_neg (by simpa using UInt32.le_of_lt hlt)]
      rfl
    · rename_i hge
      have hlt : bound < id := UInt32.lt_of_le_of_ne (UInt32.not_lt.mp hge) (Ne.symm h.1)
      rw [slotOf, List.takeWhile_cons_of_pos (by simpa using hlt), ih h.2]
      rfl

/-- What the probe comes to on ascending pairs. -/
lemma probe_spec (h : (pairs.map Prod.fst).Pairwise (· < ·)) (proposed : UInt32) :
    match probe pairs proposed with
    | .ok (free, slot) => LeastFree proposed (pairs.map Prod.fst) free ∧ slot = slotOf free pairs
    | .error fault => fault = .idsExhausted ∧
      ∀ id, proposed ≤ id → id ∈ pairs.map Prod.fst := by
  induction proposed using probe.induct pairs with
  | case1 proposed slot hfound hnext ih =>
    have htaken := mem_of_search hfound
    rw [probe, hfound]
    simp only [if_pos hnext]
    cases hprobe : probe pairs (proposed + 1) with
    | ok ended =>
      rw [hprobe] at ih
      exact ⟨ih.1.of_taken hnext htaken, ih.2⟩
    | error fault =>
      rw [hprobe] at ih
      exact ⟨ih.1, forall_mem_of_taken hnext htaken ih.2⟩
  | case2 proposed slot hfound hlast =>
    rw [probe, hfound]
    simp only [if_neg hlast]
    exact ⟨trivial, forall_mem_of_greatest hlast (mem_of_search hfound)⟩
  | case3 proposed slot hmissing =>
    rw [search_eq h] at hmissing
    split at hmissing
    · cases hmissing
    · rename_i hfree
      rw [probe, search_eq h, if_neg hfree]
      exact ⟨.self hfree, rfl⟩

/-- **The probe** ends at the least free id and its slot. -/
theorem probe_eq (h : (pairs.map Prod.fst).Pairwise (· < ·)) (proposed : UInt32) :
    probe pairs proposed = match leastFree? proposed pairs with
      | some free => .ok (free, slotOf free pairs)
      | none => .error .idsExhausted := by
  have hprobe := probe_spec h proposed
  have hleast := leastFree?_spec h proposed
  cases hfree : leastFree? proposed pairs with
  | some free =>
    rw [hfree] at hleast
    cases hended : probe pairs proposed with
    | ok ended =>
      obtain ⟨other, slot⟩ := ended
      rw [hended] at hprobe
      obtain ⟨hother, rfl⟩ := hprobe
      rw [hother.unique hleast]
    | error fault =>
      rw [hended] at hprobe
      exact absurd (hprobe.2 free hleast.le) hleast.unbound
  | none =>
    rw [hfree] at hleast
    cases hended : probe pairs proposed with
    | ok ended =>
      rw [hended] at hprobe
      exact absurd (hleast ended.1 hprobe.1.le) hprobe.1.unbound
    | error fault =>
      rw [hended] at hprobe
      rw [hprobe.1]

/-! ## Changing a table in place -/

/-- The last step of an insertion: a new key gets its id and comes last. -/
def bindInPlace (key : String) (id : UInt32) : ExceptT Fault (StateM Table) UInt32 := do
  modify fun table => { table with entries := table.entries ++ [(key, id)] }
  return id

/-- The steps of an insertion into a table, of which it has read what it needs to know. -/
def changeInPlace (found : Table) (key : String) (proposed : UInt32) :
    ExceptT Fault (StateM Table) UInt32 :=
  match found.lookup key with
  | some id => return id
  | none =>
    match found.mode with
    | .forward => bindInPlace key proposed
    | .reversible => do
      let (id, slot) ← MonadExcept.ofExcept (probe found.byId proposed)
      modify fun table => { table with byId := table.byId.insertIdx slot (id, key) }
      bindInPlace key id

/-- Binds a key in a table that is changed in place, and yields its id. -/
def insertInPlace (key : String) (proposed : UInt32) : ExceptT Fault (StateM Table) UInt32 := do
  changeInPlace (← get) key proposed

/-- **The insertion in place** answers as the insertion does, and leaves the table that comes of it;
if it stops, it leaves the table that it met. -/
theorem run_insertInPlace {table : Table} (h : table.Coherent) (key : String)
    (proposed : UInt32) :
    (insertInPlace key proposed).run.run table
      = ((table.insert key proposed).map Prod.fst, table.offer key proposed) := by
  show (changeInPlace table key proposed).run.run table = _
  unfold changeInPlace offer insert
  cases hlookup : table.lookup key with
  | some id => rfl
  | none =>
    obtain ⟨mode, entries, byId⟩ := table
    cases mode with
    | forward => rfl
    | reversible =>
      simp only [probe_eq h.ascending]
      cases hfree : leastFree? proposed byId with
      | none => rfl
      | some free =>
        have hleast := leastFree?_eq_some h.ascending hfree
        simp only [insertById_eq_insertIdx hleast.unbound]
        rfl

/-! ## What an insertion does -/

/-- Whether some key is bound to the id. -/
def Binds (table : Table) (id : UInt32) : Prop :=
  ∃ key, table.lookup key = some id

variable {table later : Table}

/-- A new key is bound behind all others. -/
lemma entries_of_insert (hnew : table.lookup key = none)
    (h : table.insert key proposed = .ok (id, later)) :
    later.entries = table.entries ++ [(key, id)] := by
  rcases insert_cases h with ⟨hbound, -⟩ | ⟨-, -, -, rfl⟩ | ⟨-, -, -, rfl⟩
  · rw [hnew] at hbound
    cases hbound
  · rfl
  · rfl

/-- What is found after a key was inserted. -/
lemma lookup_of_insert (h : table.insert key proposed = .ok (id, later)) (other : String) :
    later.lookup other = if other = key then some id else table.lookup other := by
  split
  · rename_i hother
    rw [hother]
    exact (insert_extends h).2
  · rename_i hother
    cases hlookup : table.lookup key with
    | some held =>
      rw [insert_of_lookup hlookup] at h
      cases h
      rfl
    | none =>
      rw [lookup, entries_of_insert hlookup h, lookup_append, if_neg hother, Option.or_none]
      rfl

namespace Coherent

lemma leastFree_of_insert (h : table.Coherent) (hmode : table.mode = .reversible)
    (hnew : table.lookup key = none) (hinsert : table.insert key proposed = .ok (id, later)) :
    LeastFree proposed table.ids id := by
  rcases insert_cases hinsert with ⟨hbound, -⟩ | ⟨-, hforward, -⟩ | ⟨-, -, hfree, -⟩
  · rw [hnew] at hbound
    cases hbound
  · rw [hmode] at hforward
    cases hforward
  · exact leastFree?_eq_some h.ascending hfree

/-- In a reversible table a new key gets the least id that is not taken. -/
lemma exists_insert_iff (h : table.Coherent) (hmode : table.mode = .reversible)
    (hnew : table.lookup key = none) :
    (∃ later, table.insert key proposed = .ok (id, later)) ↔ LeastFree proposed table.ids id := by
  refine ⟨fun ⟨later, hinsert⟩ => h.leastFree_of_insert hmode hnew hinsert, fun hleast => ?_⟩
  cases hinsert : table.insert key proposed with
  | error fault =>
    obtain ⟨-, -, -, htaken⟩ := h.insert_eq_error.mp hinsert
    exact absurd (htaken id hleast.le) hleast.unbound
  | ok inserted =>
    obtain ⟨other, later⟩ := inserted
    rw [hleast.unique (h.leastFree_of_insert hmode hnew hinsert)]
    exact ⟨later, rfl⟩

/-- The ids that are taken are those that keys are bound to. -/
lemma leastFree_iff (h : table.Coherent) (hmode : table.mode = .reversible) :
    LeastFree proposed table.ids id ↔
      proposed ≤ id ∧ ¬ table.Binds id ∧
        ∀ lower, proposed ≤ lower → lower < id → table.Binds lower := by
  have hids : ∀ other, other ∈ table.ids ↔ table.Binds other := fun _ => h.mem_ids hmode
  constructor
  · intro hleast
    exact ⟨hleast.le, mt (hids id).mpr hleast.unbound,
      fun lower hlower hlt => (hids lower).mp (hleast.least lower hlower hlt)⟩
  · rintro ⟨hle, hunbound, hleast⟩
    exact ⟨hle, mt (hids id).mp hunbound,
      fun lower hlower hlt => (hids lower).mpr (hleast lower hlower hlt)⟩

end Coherent

/-- What becomes of a table to which a key is offered under an id. -/
structure TakesLeastFree (mode : Mode) (table : Table) (key : String) (proposed : UInt32) :
    Prop where
  /-- A key that is bound answers with its id and leaves the table alone. -/
  bound : ∀ id, table.lookup key = some id → table.insert key proposed = .ok (id, table)
  /-- A new key takes the proposed id in a forward table. -/
  forward : table.lookup key = none → mode = .forward →
    ∃ later, table.insert key proposed = .ok (proposed, later)
  /-- In a reversible table it takes the least id from the proposed one on that no key is bound
  to. -/
  reversible : table.lookup key = none → mode = .reversible → ∀ id,
    (∃ later, table.insert key proposed = .ok (id, later)) ↔
      proposed ≤ id ∧ ¬ table.Binds id ∧
        ∀ lower, proposed ≤ lower → lower < id → table.Binds lower
  /-- An insertion stops exactly if the table is reversible, the key is new and every id from the
  proposed one on is bound. -/
  stops : ∀ fault, table.insert key proposed = .error fault ↔
    fault = .idsExhausted ∧ mode = .reversible ∧ table.lookup key = none ∧
      ∀ id, proposed ≤ id → table.Binds id
  /-- A new key comes last in the order of insertion. -/
  last : table.lookup key = none → ∀ id later, table.insert key proposed = .ok (id, later) →
    later.entries = table.entries ++ [(key, id)]
  /-- The key has the id that is answered, and every other key keeps its own, or has none. -/
  others : ∀ id later, table.insert key proposed = .ok (id, later) →
    ∀ other, later.lookup other = if other = key then some id else table.lookup other
  /-- In place the same table comes of it. -/
  inPlace : ∀ id later, table.insert key proposed = .ok (id, later) →
    (insertInPlace key proposed).run.run table = (.ok id, later)
  /-- In place an insertion that stops leaves the table that it met. -/
  unchanged : ∀ fault, table.insert key proposed = .error fault →
    (insertInPlace key proposed).run.run table = (.error fault, table)

/-- **An insertion takes the least free id or changes nothing**, whatever key is offered under
whatever id to a table of any run. -/
theorem insertion_takes_least_free_id {mode : Mode} {table : Table} (h : Reachable mode table)
    (key : String) (proposed : UInt32) : table.TakesLeastFree mode key proposed := by
  obtain ⟨hcoherent, rfl⟩ := h.coherent
  have hrun := run_insertInPlace hcoherent key proposed
  refine ⟨fun id hbound => insert_of_lookup hbound proposed, fun hnew hmode => ?_,
    fun hnew hmode id => ?_, fun fault => ?_, fun hnew id later => entries_of_insert hnew,
    fun id later => lookup_of_insert, fun id later hinsert => ?_, fun fault hinsert => ?_⟩
  · rw [insert, hnew, hmode]
    exact ⟨_, rfl⟩
  · rw [hcoherent.exists_insert_iff hmode hnew, hcoherent.leastFree_iff hmode]
  · rw [hcoherent.insert_eq_error]
    constructor
    · rintro ⟨hfault, hmode, hnew, htaken⟩
      exact ⟨hfault, hmode, hnew, fun id hid => (hcoherent.mem_ids hmode).mp (htaken id hid)⟩
    · rintro ⟨hfault, hmode, hnew, htaken⟩
      exact ⟨hfault, hmode, hnew, fun id hid => (hcoherent.mem_ids hmode).mpr (htaken id hid)⟩
  · rw [hrun, offer, hinsert]
    rfl
  · rw [hrun, offer, hinsert]
    rfl

/-- Three keys at a run of ids, and a fourth one that probes over it. -/
theorem insertion_probes_over_run_of_ids :
    let table := (empty .reversible).offerAll [("x", 10), ("z", 12), ("y", 11), ("v", 14)]
    table.lookup "w" = none ∧ (table.insert "w" 10).map Prod.fst = .ok 13 ∧
      table.TakesLeastFree .reversible "w" 10 := by
  intro table
  exact ⟨by decide +kernel, by decide +kernel,
    insertion_takes_least_free_id (Reachable.empty.offerAll _) "w" 10⟩

end Retrieval.Symbol.Table

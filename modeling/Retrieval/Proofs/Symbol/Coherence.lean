import Mathlib.Data.List.Nodup
import Mathlib.Tactic.Common
import Retrieval.Proofs.Fault
import Retrieval.Proofs.Symbol.Table

/-!
# The invariant of a table under any insertions

`Retrieval.Proofs.Symbol.Table` follows tables that are offered ever higher ids.  A file offers ids
in any order, and the same id more than once, so what holds of a table that is read is only what
every insertion preserves: keys are bound once, and the view from ids to keys is the view from keys
to ids turned around.  That is `Coherent`.

The step lemma is `Coherent.insert`.  It rests on what the probe for a free id finds: on ascending
pairs `leastFree?` finds the least free id from the proposed one on (`leastFree?_eq_some`), and it
finds none only if no id from the proposed one on is free (`leastFree?_eq_none`).  So an insertion
stops exactly if the key is new and all these ids are taken (`insert_eq_error`).
-/

namespace Retrieval.Symbol.Table

/-! ## The probe for a free id -/

lemma succ_le_iff {id other : UInt32} (h : id.toNat + 1 < UInt32.size) :
    id + 1 ≤ other ↔ id < other := by
  have hsucc : (id + 1).toNat = id.toNat + 1 := by
    rw [UInt32.toNat_add]
    exact Nat.mod_eq_of_lt h
  rw [UInt32.le_iff_toNat_le, UInt32.lt_iff_toNat_lt, hsucc, Nat.succ_le_iff]

/-- Nothing is above the greatest id. -/
lemma eq_of_le_greatest {id other : UInt32} (h : ¬ id.toNat + 1 < UInt32.size) (hle : id ≤ other) :
    other = id := by
  have hother := other.toNat_lt
  have hsize : UInt32.size = 2 ^ 32 := rfl
  rw [UInt32.le_iff_toNat_le] at hle
  exact UInt32.toNat_inj.mp (by omega)

/-- A free id that is not below the proposed one, with no free id between the two. -/
structure LeastFree (proposed : UInt32) (taken : List UInt32) (free : UInt32) : Prop where
  le : proposed ≤ free
  unbound : free ∉ taken
  least : ∀ id, proposed ≤ id → id < free → id ∈ taken

namespace LeastFree

variable {proposed bound free : UInt32} {taken : List UInt32}

/-- An id below the proposed one is of no account. -/
lemma cons_of_lt (hbound : bound < proposed) (h : LeastFree proposed taken free) :
    LeastFree proposed (bound :: taken) free where
  le := h.le
  unbound := by
    rw [List.mem_cons, not_or]
    exact ⟨(UInt32.ne_of_lt (UInt32.lt_of_lt_of_le hbound h.le)).symm, h.unbound⟩
  least id hid hlt := List.mem_cons_of_mem _ (h.least id hid hlt)

/-- If the proposed id is taken, the search goes on with the next one. -/
lemma of_taken (hnext : proposed.toNat + 1 < UInt32.size) (htaken : proposed ∈ taken)
    (h : LeastFree (proposed + 1) taken free) : LeastFree proposed taken free where
  le := UInt32.le_of_lt ((succ_le_iff hnext).mp h.le)
  unbound := h.unbound
  least id hid hlt := by
    by_cases hself : id = proposed
    · rw [hself]
      exact htaken
    · apply h.least id ((succ_le_iff hnext).mpr _) hlt
      exact UInt32.lt_of_le_of_ne hid (Ne.symm hself)

lemma unique {other : UInt32} (h : LeastFree proposed taken free)
    (hother : LeastFree proposed taken other) : free = other := by
  by_contra hne
  rcases UInt32.le_total free other with hle | hle
  · exact h.unbound (hother.least free h.le (UInt32.lt_of_le_of_ne hle hne))
  · exact hother.unbound (h.least other hother.le (UInt32.lt_of_le_of_ne hle (Ne.symm hne)))

/-- Only which ids are taken matters. -/
lemma congr {taken' : List UInt32} (h : LeastFree proposed taken free)
    (hsame : ∀ id, id ∈ taken ↔ id ∈ taken') : LeastFree proposed taken' free where
  le := h.le
  unbound := fun hmem => h.unbound ((hsame free).mpr hmem)
  least id hid hlt := (hsame id).mp (h.least id hid hlt)

/-- A free id is the least one from itself on. -/
lemma self (h : free ∉ taken) : LeastFree free taken free where
  le := UInt32.le_refl free
  unbound := h
  least _ hid hlt := absurd hlt (UInt32.not_lt.mpr hid)

end LeastFree

/-- If the proposed id is taken and all above it, so are all from it on. -/
lemma forall_mem_of_taken {proposed : UInt32} {taken : List UInt32}
    (hnext : proposed.toNat + 1 < UInt32.size) (htaken : proposed ∈ taken)
    (h : ∀ id, proposed + 1 ≤ id → id ∈ taken) : ∀ id, proposed ≤ id → id ∈ taken := by
  intro id hid
  by_cases hself : id = proposed
  · rw [hself]
    exact htaken
  · apply h id ((succ_le_iff hnext).mpr _)
    exact UInt32.lt_of_le_of_ne hid (Ne.symm hself)

/-- If the greatest id is taken, so are all from it on. -/
lemma forall_mem_of_greatest {proposed : UInt32} {taken : List UInt32}
    (hlast : ¬ proposed.toNat + 1 < UInt32.size) (htaken : proposed ∈ taken) :
    ∀ id, proposed ≤ id → id ∈ taken := by
  intro id hid
  rw [eq_of_le_greatest hlast hid]
  exact htaken

/-- What a probe from the proposed id on may answer: the least free id, or none if there is no free
one. -/
def ProbeAnswer (proposed : UInt32) (taken : List UInt32) : Option UInt32 → Prop
  | some free => LeastFree proposed taken free
  | none => ∀ id, proposed ≤ id → id ∈ taken

namespace ProbeAnswer

variable {proposed bound : UInt32} {taken : List UInt32} {answer? : Option UInt32}

lemma cons_of_lt (hbound : bound < proposed) (h : ProbeAnswer proposed taken answer?) :
    ProbeAnswer proposed (bound :: taken) answer? := by
  cases answer? with
  | some free => exact LeastFree.cons_of_lt hbound h
  | none => exact fun id hid => List.mem_cons_of_mem _ (h id hid)

lemma of_taken (hnext : proposed.toNat + 1 < UInt32.size) (htaken : proposed ∈ taken)
    (h : ProbeAnswer (proposed + 1) taken answer?) : ProbeAnswer proposed taken answer? := by
  cases answer? with
  | some free => exact LeastFree.of_taken hnext htaken h
  | none => exact forall_mem_of_taken hnext htaken h

end ProbeAnswer

/-- What the probe answers on ascending pairs. -/
lemma leastFree?_spec {pairs : List (UInt32 × String)}
    (h : (pairs.map Prod.fst).Pairwise (· < ·)) (proposed : UInt32) :
    ProbeAnswer proposed (pairs.map Prod.fst) (leastFree? proposed pairs) := by
  induction pairs generalizing proposed with
  | nil => exact LeastFree.self List.not_mem_nil
  | cons pair rest ih =>
    obtain ⟨bound, key⟩ := pair
    rw [List.map_cons, List.pairwise_cons] at h
    rw [leastFree?, List.map_cons]
    by_cases hbelow : bound < proposed
    · rw [if_pos hbelow]
      exact (ih h.2 proposed).cons_of_lt hbelow
    rw [if_neg hbelow]
    by_cases hself : bound = proposed
    · subst hself
      rw [if_pos rfl]
      by_cases hnext : bound.toNat + 1 < UInt32.size
      · rw [if_pos hnext]
        have hlt : bound < bound + 1 := (succ_le_iff hnext).mp (UInt32.le_refl _)
        exact ((ih h.2 (bound + 1)).cons_of_lt hlt).of_taken hnext List.mem_cons_self
      · rw [if_neg hnext]
        exact forall_mem_of_greatest hnext List.mem_cons_self
    · -- the pairs ascend, so all further ids are above the proposed one as well
      rw [if_neg hself]
      have habove : proposed < bound :=
        UInt32.lt_of_le_of_ne (UInt32.not_lt.mp hbelow) (Ne.symm hself)
      refine LeastFree.self ?_
      rw [List.mem_cons, not_or]
      refine ⟨UInt32.ne_of_lt habove, fun hmem => ?_⟩
      exact UInt32.lt_irrefl proposed (UInt32.lt_trans habove (h.1 proposed hmem))

/-- The probe finds the least free id. -/
theorem leastFree?_eq_some {pairs : List (UInt32 × String)}
    (h : (pairs.map Prod.fst).Pairwise (· < ·)) {proposed free : UInt32}
    (hfree : leastFree? proposed pairs = some free) :
    LeastFree proposed (pairs.map Prod.fst) free := by
  have hspec := leastFree?_spec h proposed
  rwa [hfree] at hspec

/-- **The probe finds nothing** exactly if nothing is free from the proposed id on. -/
theorem leastFree?_eq_none {pairs : List (UInt32 × String)}
    (h : (pairs.map Prod.fst).Pairwise (· < ·)) {proposed : UInt32} :
    leastFree? proposed pairs = none ↔ ∀ id, proposed ≤ id → id ∈ pairs.map Prod.fst := by
  have hspec := leastFree?_spec h proposed
  cases hprobe : leastFree? proposed pairs with
  | none =>
    rw [hprobe] at hspec
    exact ⟨fun _ => hspec, fun _ => rfl⟩
  | some free =>
    rw [hprobe] at hspec
    refine ⟨fun hnone => ?_, fun hall => absurd (hall free hspec.le) hspec.unbound⟩
    cases hnone

/-! ## A pair among ascending pairs -/

lemma insertById_perm (id : UInt32) (key : String) (pairs : List (UInt32 × String)) :
    (insertById id key pairs).Perm ((id, key) :: pairs) := by
  induction pairs with
  | nil => exact List.Perm.refl _
  | cons pair rest ih =>
    obtain ⟨bound, other⟩ := pair
    rw [insertById]
    split
    · exact List.Perm.refl _
    · exact (ih.cons _).trans (List.Perm.swap _ _ _)

lemma ascending_insertById {id : UInt32} {key : String} {pairs : List (UInt32 × String)}
    (h : (pairs.map Prod.fst).Pairwise (· < ·)) (hfree : id ∉ pairs.map Prod.fst) :
    ((insertById id key pairs).map Prod.fst).Pairwise (· < ·) := by
  induction pairs with
  | nil => exact List.pairwise_singleton _ _
  | cons pair rest ih =>
    obtain ⟨bound, other⟩ := pair
    rw [List.map_cons, List.mem_cons, not_or] at hfree
    have hcons := List.pairwise_cons.mp h
    rw [insertById]
    split
    · rename_i hlt
      refine List.pairwise_cons.mpr ⟨fun later hlater => ?_, h⟩
      rcases List.mem_cons.mp hlater with rfl | hlater
      · exact hlt
      · exact UInt32.lt_trans hlt (hcons.1 later hlater)
    · rename_i hge
      have habove : bound < id := UInt32.lt_of_le_of_ne (UInt32.not_lt.mp hge) (Ne.symm hfree.1)
      rw [List.map_cons, List.pairwise_cons]
      refine ⟨fun later hlater => ?_, ih hcons.2 hfree.2⟩
      rw [((insertById_perm id key rest).map Prod.fst).mem_iff, List.map_cons,
        List.mem_cons] at hlater
      rcases hlater with rfl | hlater
      · exact habove
      · exact hcons.1 later hlater

/-! ## The invariant -/

/-- The invariant of a table: each key is bound once, and the view from ids, which only a reversible
table has, shows the same bindings in ascending order of their ids. -/
structure Coherent (table : Table) : Prop where
  keys : (table.entries.map Prod.fst).Nodup
  ascending : table.ids.Pairwise (· < ·)
  reversible : table.mode = .reversible → table.byId.Perm (table.entries.map Prod.swap)
  forward : table.mode = .forward → table.byId = []

lemma Coherent.empty (mode : Mode) : (Table.empty mode).Coherent where
  keys := List.nodup_nil
  ascending := List.Pairwise.nil
  reversible _ := List.Perm.refl []
  forward _ := rfl

namespace Coherent

variable {table later : Table} {key : String} {proposed id : UInt32}

lemma keys_append (h : table.Coherent) (hnew : table.lookup key = none) (bound : UInt32) :
    ((table.entries ++ [(key, bound)]).map Prod.fst).Nodup := by
  rw [List.map_append, List.map_singleton, List.nodup_append_comm, List.singleton_append,
    List.nodup_cons]
  exact ⟨lookup_eq_none.mp hnew, h.keys⟩

/-- **Every insertion** preserves the invariant. -/
theorem insert (h : table.Coherent) (hinsert : table.insert key proposed = .ok (id, later)) :
    later.Coherent := by
  rcases insert_cases hinsert with ⟨-, rfl⟩ | ⟨hnew, hmode, -, rfl⟩ | ⟨hnew, hmode, hfree, rfl⟩
  · exact h
  · refine ⟨h.keys_append hnew id, h.ascending, fun hreversible => ?_, fun _ => h.forward hmode⟩
    rw [hmode] at hreversible
    cases hreversible
  · have hleast := leastFree?_eq_some h.ascending hfree
    refine ⟨h.keys_append hnew id, ascending_insertById h.ascending hleast.unbound, fun _ => ?_,
      fun hforward => ?_⟩
    · show (insertById id key table.byId).Perm ((table.entries ++ [(key, id)]).map Prod.swap)
      rw [List.map_append, List.map_singleton]
      apply (insertById_perm id key table.byId).trans
      exact ((h.reversible hmode).cons _).trans (List.perm_append_singleton _ _).symm
    · rw [hmode] at hforward
      cases hforward

/-- **An insertion stops** exactly if a reversible table is offered a new key and no id from the
proposed one on is free. -/
theorem insert_eq_error (h : table.Coherent) {fault : Fault} :
    table.insert key proposed = .error fault ↔
      fault = .idsExhausted ∧ table.mode = .reversible ∧ table.lookup key = none ∧
        ∀ id, proposed ≤ id → id ∈ table.ids := by
  unfold Table.insert
  cases hlookup : table.lookup key with
  | some held => simp
  | none =>
    cases hmode : table.mode with
    | forward => simp
    | reversible =>
      have hnone : leastFree? proposed table.byId = none ↔ ∀ id, proposed ≤ id → id ∈ table.ids :=
        leastFree?_eq_none h.ascending
      cases hfree : leastFree? proposed table.byId with
      | none =>
        have htaken : ∀ id, proposed ≤ id → id ∈ table.ids := hnone.mp hfree
        simp only [Except.error.injEq, true_and]
        exact ⟨fun h => ⟨h.symm, htaken⟩, fun h => h.1.symm⟩
      | some free =>
        rw [hfree] at hnone
        have hsome : ¬ ∀ id, proposed ≤ id → id ∈ table.ids := fun hall => nomatch hnone.mpr hall
        simp only [reduceCtorEq, hsome, and_false]

/-! ### What the table answers -/

lemma nodup_ids (h : table.Coherent) : table.ids.Nodup :=
  h.ascending.imp UInt32.ne_of_lt

/-- What a reversible table knows of an id is the key that is bound to it. -/
lemma lookup_byId (h : table.Coherent) (hmode : table.mode = .reversible) :
    table.byId.lookup id = some key ↔ table.lookup key = some id := by
  rw [lookup_eq_some_iff_mem h.nodup_ids, Table.lookup, lookup_eq_some_iff_mem h.keys,
    (h.reversible hmode).mem_iff, List.mem_map]
  constructor
  · rintro ⟨⟨_, _⟩, hentry, heq⟩
    cases heq
    exact hentry
  · exact fun hentry => ⟨(key, id), hentry, rfl⟩

/-- The ids of a reversible table are those that it binds keys to. -/
lemma mem_ids (h : table.Coherent) (hmode : table.mode = .reversible) :
    id ∈ table.ids ↔ ∃ key, table.lookup key = some id := by
  constructor
  · intro hid
    obtain ⟨⟨_, key⟩, hpair, rfl⟩ := List.mem_map.mp hid
    refine ⟨key, (h.lookup_byId hmode).mp ?_⟩
    exact (lookup_eq_some_iff_mem h.nodup_ids).mpr hpair
  · rintro ⟨key, hkey⟩
    have hpair := (lookup_eq_some_iff_mem h.nodup_ids).mp ((h.lookup_byId hmode).mpr hkey)
    exact List.mem_map_of_mem hpair

/-- The ids of a reversible table are those of its entries, in another order. -/
lemma ids_perm (h : table.Coherent) (hmode : table.mode = .reversible) :
    table.ids.Perm (table.entries.map Prod.snd) := by
  have hperm := (h.reversible hmode).map Prod.fst
  rwa [List.map_map] at hperm

/-- A reversible table binds different keys to different ids. -/
lemma nodup_values (h : table.Coherent) (hmode : table.mode = .reversible) :
    (table.entries.map Prod.snd).Nodup :=
  (h.ids_perm hmode).nodup_iff.mp h.nodup_ids

end Coherent

end Retrieval.Symbol.Table

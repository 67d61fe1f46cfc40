import Mathlib.Data.List.Induction
import Mathlib.Data.List.Perm.Basic
import Mathlib.Tactic.Common
import Retrieval.Proofs.Symbol.Runs

/-!
# Tables that are written and read again

A table is read by inserting its entries once more, so what comes back depends on what the mode
makes of the stored ids.  A forward table takes them as they are.  A reversible one gives each key,
in its turn, the least id from the stored one on that no key before it got: `Probed` is this
relation between stored and given bindings, and `StopsIn` says that for some key there is no such
id.  Inserting comes to the one (`probed_of_insertAll`, `Probed.exists_insertAll`) or to the other
(`insertAll_eq_error_iff_stopsIn`).

Ids that are pairwise distinct are all free when their turn comes, so they are kept
(`Probed.eq_iff_nodup`), and as a table is determined by its entries (`Coherent.ext`), a reversible
table that is read again is the same table.  `table_is_read_back` puts all of this together.
-/

namespace Retrieval.Symbol.Table

/-! ## The ids that entries get -/

variable {stored given : List (String × UInt32)} {key : String} {proposed id : UInt32}

/-- The bindings that stored ones turn into: each key gets the least id from the stored one on that
no key before it got. -/
inductive Probed : List (String × UInt32) → List (String × UInt32) → Prop
  | nil : Probed [] []
  | append {stored given : List (String × UInt32)} {key : String} {proposed id : UInt32} :
    Probed stored given → LeastFree proposed (given.map Prod.snd) id →
    Probed (stored ++ [(key, proposed)]) (given ++ [(key, id)])

/-- For one of the stored bindings there is no id from the stored one on that no key before it
got. -/
def StopsIn (stored : List (String × UInt32)) : Prop :=
  ∃ done key proposed rest given, stored = done ++ (key, proposed) :: rest ∧ Probed done given ∧
    ∀ id, proposed ≤ id → id ∈ given.map Prod.snd

/-- Keys and their order are kept. -/
lemma Probed.keys (h : Probed stored given) : given.map Prod.fst = stored.map Prod.fst := by
  induction h with
  | nil => rfl
  | append _ _ ih => rw [List.map_append, List.map_append, ih, List.map_singleton, List.map_singleton]

/-- No id is given twice. -/
lemma Probed.nodup (h : Probed stored given) : (given.map Prod.snd).Nodup := by
  induction h with
  | nil => exact List.nodup_nil
  | append _ hleast ih =>
    rw [List.map_append, List.map_singleton, List.nodup_append_comm, List.singleton_append,
      List.nodup_cons]
    exact ⟨hleast.unbound, ih⟩

lemma probed_self (h : (stored.map Prod.snd).Nodup) : Probed stored stored := by
  induction stored using List.reverseRecOn with
  | nil => exact .nil
  | append_singleton done entry ih =>
    rw [List.map_append, List.map_singleton, List.nodup_append_comm, List.singleton_append,
      List.nodup_cons] at h
    exact (ih h.2).append (.self h.1)

lemma Probed.unique {other : List (String × UInt32)} (h : Probed stored given)
    (hother : Probed stored other) : given = other := by
  induction h generalizing other with
  | nil =>
    generalize hstored : ([] : List (String × UInt32)) = stored at hother
    cases hother with
    | nil => rfl
    | append _ _ => exact absurd hstored.symm (by simp)
  | @append done before key proposed id _ hleast ih =>
    generalize hstored : done ++ [(key, proposed)] = stored at hother
    cases hother with
    | nil => simp at hstored
    | append hbefore hleast' =>
      obtain ⟨rfl, hentry⟩ := List.append_inj' hstored rfl
      cases hentry
      obtain rfl := ih hbefore
      rw [hleast.unique hleast']

/-- **All stored ids are kept** exactly if they are pairwise distinct. -/
theorem Probed.eq_iff_nodup (h : Probed stored given) :
    given = stored ↔ (stored.map Prod.snd).Nodup :=
  ⟨fun heq => heq ▸ h.nodup, fun hnodup => h.unique (probed_self hnodup)⟩

/-! ## Inserting stored entries -/

/-- Inserting stored entries into a reversible table gives each key its least free id. -/
lemma probed_of_insertAll {later : Table} (hkeys : (stored.map Prod.fst).Nodup)
    (h : (empty .reversible).insertAll stored = .ok later) : Probed stored later.entries := by
  induction stored using List.reverseRecOn generalizing later with
  | nil =>
    cases h
    exact .nil
  | append_singleton done entry ih =>
    obtain ⟨key, proposed⟩ := entry
    rw [List.map_append, List.map_singleton, List.nodup_append_comm, List.singleton_append,
      List.nodup_cons] at hkeys
    rw [insertAll_append] at h
    obtain ⟨before, hdone, h⟩ := bind_eq_ok.mp h
    obtain ⟨⟨id, inserted⟩, hinsert, h⟩ := bind_eq_ok.mp h
    cases h
    have hprobed := ih hkeys.2 hdone
    obtain ⟨hbefore, hmode⟩ := (Coherent.empty .reversible).insertAll hdone
    rcases insert_cases hinsert with ⟨hbound, -⟩ | ⟨-, hforward, -⟩ | ⟨-, -, hfree, rfl⟩
    · -- the key is none of those before it
      have hnew : before.lookup key = none := by
        rw [lookup_eq_none, hprobed.keys]
        exact hkeys.1
      rw [hnew] at hbound
      cases hbound
    · rw [hmode] at hforward
      cases hforward
    · exact hprobed.append ((leastFree?_eq_some hbefore.ascending hfree).congr
        fun bound => (hbefore.ids_perm hmode).mem_iff)

/-- Bindings that entries turn into are what inserting the entries comes to. -/
lemma Probed.exists_insertAll (h : Probed stored given) (hkeys : (stored.map Prod.fst).Nodup) :
    ∃ later, (empty .reversible).insertAll stored = .ok later ∧ later.entries = given := by
  induction h with
  | nil => exact ⟨empty .reversible, rfl, rfl⟩
  | @append stored given key proposed id hprobed hleast ih =>
    have hdistinct := hkeys
    rw [List.map_append] at hdistinct
    obtain ⟨before, hdone, hbefore⟩ := ih hdistinct.of_append_left
    obtain ⟨hcoherent, hmode⟩ := (Coherent.empty .reversible).insertAll hdone
    cases hinsert : before.insert key proposed with
    | error fault =>
      obtain ⟨-, -, -, htaken⟩ := hcoherent.insert_eq_error.mp hinsert
      have hmem := (hcoherent.ids_perm hmode).mem_iff.mp (htaken id hleast.le)
      rw [hbefore] at hmem
      exact absurd hmem hleast.unbound
    | ok inserted =>
      have hall : (empty .reversible).insertAll (stored ++ [(key, proposed)])
          = .ok inserted.2 := by
        rw [insertAll_append, hdone, ok_bind, insertAll, hinsert]
        rfl
      exact ⟨inserted.2, hall, (probed_of_insertAll hkeys hall).unique (hprobed.append hleast)⟩

/-- **Inserting stops** exactly if it stops in the entries. -/
theorem insertAll_eq_error_iff_stopsIn (hkeys : (stored.map Prod.fst).Nodup) {fault : Fault} :
    (empty .reversible).insertAll stored = .error fault ↔
      fault = .idsExhausted ∧ StopsIn stored := by
  have hbefore : ∀ {done : List (String × UInt32)} {before : Table},
      (empty .reversible).insertAll done = .ok before →
        ∀ id, id ∈ before.ids ↔ id ∈ before.entries.map Prod.snd := fun hdone _ =>
    have hcoherent := (Coherent.empty .reversible).insertAll hdone
    (hcoherent.1.ids_perm hcoherent.2).mem_iff
  rw [insertAll_eq_error]
  constructor
  · rintro ⟨done, key, proposed, rest, before, rfl, hdone, hstop⟩
    obtain ⟨hcoherent, -⟩ := (Coherent.empty .reversible).insertAll hdone
    obtain ⟨rfl, -, -, htaken⟩ := hcoherent.insert_eq_error.mp hstop
    rw [List.map_append] at hkeys
    exact ⟨rfl, done, key, proposed, rest, before.entries, rfl,
      probed_of_insertAll hkeys.of_append_left hdone,
      fun id hid => (hbefore hdone id).mp (htaken id hid)⟩
  · rintro ⟨rfl, done, key, proposed, rest, given, rfl, hprobed, htaken⟩
    rw [List.map_append, List.map_cons] at hkeys
    obtain ⟨before, hdone, rfl⟩ := hprobed.exists_insertAll hkeys.of_append_left
    obtain ⟨hcoherent, hmode⟩ := (Coherent.empty .reversible).insertAll hdone
    refine ⟨done, key, proposed, rest, before, rfl, hdone,
      hcoherent.insert_eq_error.mpr ⟨rfl, hmode, ?_, fun id hid => ?_⟩⟩
    · rw [lookup_eq_none, hprobed.keys]
      exact (List.nodup_cons.mp (List.nodup_middle.mp hkeys)).1 ∘ List.mem_append_left _
    · exact (hbefore hdone id).mpr (htaken id hid)

/-! ## Tables -/

/-- A table that obeys the invariant is determined by its mode and its entries. -/
lemma Coherent.ext {a b : Table} (ha : a.Coherent) (hb : b.Coherent) (hmode : a.mode = b.mode)
    (hentries : a.entries = b.entries) : a = b := by
  have hpairs : a.byId = b.byId := by
    cases hcase : a.mode with
    | forward => rw [ha.forward hcase, hb.forward (hmode ▸ hcase)]
    | reversible =>
      have hperm : a.byId.Perm b.byId := by
        have hb' := hb.reversible (hmode ▸ hcase)
        rw [← hentries] at hb'
        exact (ha.reversible hcase).trans hb'.symm
      refine hperm.eq_of_pairwise (fun x y _ _ hxy hyx => ?_) (List.pairwise_map.mp ha.ascending)
        (List.pairwise_map.mp hb.ascending)
      exact absurd hyx (UInt32.lt_asymm hxy)
  cases a
  cases b
  cases hmode
  cases hentries
  cases hpairs
  rfl

/-- **A table is read back.**  A table of any run whose entries and keys can be counted has a file,
and read in its own mode the file is the table again.  Read as a forward table it keeps all entries
in their order.  Read as a reversible one it keeps the keys in their order, and each key gets the
least id from its stored one on that no key before it got; so the stored ids are all kept exactly if
they are pairwise distinct.  The reading stops exactly if for one of the keys there is no such
id. -/
theorem table_is_read_back {mode : Mode} {table : Table} (h : Reachable mode table)
    (hsize : table.size < UInt32.size) (hkeys : ∀ entry ∈ table.entries, Framable entry.1) :
    ∃ octets, table.encode = .ok octets ∧
      decode mode octets = .ok table ∧
      (∃ later, decode .forward octets = .ok later ∧ later.entries = table.entries) ∧
      (∀ later, decode .reversible octets = .ok later → Probed table.entries later.entries) ∧
      (∀ failure, decode .reversible octets = .error failure ↔
        failure = .fault .idsExhausted ∧ StopsIn table.entries) ∧
      ((∃ later, decode .reversible octets = .ok later ∧ later.entries = table.entries) ↔
        (table.entries.map Prod.snd).Nodup) := by
  obtain ⟨hcoherent, rfl⟩ := h.coherent
  obtain ⟨octets, hencode⟩ := exists_encode hsize hkeys
  have hforward : decode .forward octets = .ok ⟨.forward, table.entries, []⟩ := by
    rw [decode_encode hencode, insertAll_forward hcoherent.keys]
    rfl
  have hreversible : decode .reversible octets
      = liftFault ((empty .reversible).insertAll table.entries) := decode_encode hencode .reversible
  have hprobed : ∀ later, decode .reversible octets = .ok later →
      Probed table.entries later.entries := by
    intro later hlater
    rw [hreversible] at hlater
    exact probed_of_insertAll hcoherent.keys (liftFault_eq_ok.mp hlater)
  have hkept : (∃ later, decode .reversible octets = .ok later ∧ later.entries = table.entries) ↔
      (table.entries.map Prod.snd).Nodup := by
    constructor
    · rintro ⟨later, hlater, hentries⟩
      exact (hprobed later hlater).eq_iff_nodup.mp hentries
    · intro hnodup
      obtain ⟨later, hlater, hentries⟩ := (probed_self hnodup).exists_insertAll hcoherent.keys
      exact ⟨later, by rw [hreversible, hlater]; rfl, hentries⟩
  refine ⟨octets, hencode, ?_, ⟨_, hforward, rfl⟩, hprobed, fun failure => ?_, hkept⟩
  · cases hmode : table.mode with
    | forward =>
      rw [hforward]
      exact congrArg Except.ok ((coherent_of_decode hforward).1.ext hcoherent hmode.symm rfl)
    | reversible =>
      obtain ⟨later, hlater, hentries⟩ := hkept.mpr (hcoherent.nodup_values hmode)
      obtain ⟨hlatercoherent, hlatermode⟩ := coherent_of_decode hlater
      rw [hlater, hlatercoherent.ext hcoherent (hlatermode.trans hmode.symm) hentries]
  · rw [hreversible, liftFault_eq_error]
    constructor
    · rintro ⟨fault, rfl, hstop⟩
      obtain ⟨rfl, hentries⟩ := (insertAll_eq_error_iff_stopsIn hcoherent.keys).mp hstop
      exact ⟨rfl, hentries⟩
    · rintro ⟨rfl, hentries⟩
      exact ⟨_, rfl, (insertAll_eq_error_iff_stopsIn hcoherent.keys).mpr ⟨rfl, hentries⟩⟩

/-- A forward table in which two keys have one id, the empty key another, and a fourth key an id
below theirs. -/
theorem table_with_shared_id_is_read_back :
    let table := (empty .forward).offerAll [("b", 7), ("a", 7), ("", 8), ("c", 3)]
    (table.size < UInt32.size ∧ ∀ entry ∈ table.entries, Framable entry.1) ∧
    ∃ octets, table.encode = .ok octets ∧
      decode .forward octets = .ok table ∧
      (∃ later, decode .forward octets = .ok later ∧ later.entries = table.entries) ∧
      (∀ later, decode .reversible octets = .ok later → Probed table.entries later.entries) ∧
      (∀ failure, decode .reversible octets = .error failure ↔
        failure = .fault .idsExhausted ∧ StopsIn table.entries) ∧
      ((∃ later, decode .reversible octets = .ok later ∧ later.entries = table.entries) ↔
        (table.entries.map Prod.snd).Nodup) := by
  intro table
  have hsize : table.size < UInt32.size := by decide +kernel
  have hkeys : ∀ entry ∈ table.entries, Framable entry.1 := by decide +kernel
  exact ⟨⟨hsize, hkeys⟩, table_is_read_back (Reachable.empty.offerAll _) hsize hkeys⟩

end Retrieval.Symbol.Table

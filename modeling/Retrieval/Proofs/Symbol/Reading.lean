import Mathlib.Data.List.Nodup
import Mathlib.Tactic.Common
import Retrieval.Proofs.Frame.Reading
import Retrieval.Proofs.Symbol.Table
import Retrieval.Symbol.Encoding

/-!
# The file of a symbol table is read back

A table is read by inserting its entries one after the other, whatever the mode it is read in: that
is `decode_encode`, where `insertAll` is the insertion.  Two tables come of it that matter.  Read as
a forward table, any table with distinct keys keeps its entries in their order
(`insertAll_forward`).  Read as a reversible table, a table whose ids ascend in the order of
insertion is itself (`insertAll_listed`).
-/

namespace Retrieval.Symbol.Table

open Retrieval.Frame (LengthError ReadError Reader)

/-- Inserts entries one after the other. -/
def insertAll (table : Table) : List (String × UInt32) → Except Fault Table
  | [] => .ok table
  | (key, id) :: rest => do
    let inserted ← table.insert key id
    inserted.2.insertAll rest

/-! ## Writing -/

/-- A text whose octets can be counted in a frame. -/
def Framable (key : String) : Prop :=
  (Utf8.encode key.toList).length < UInt32.size

instance (key : String) : Decidable (Framable key) :=
  inferInstanceAs (Decidable ((Utf8.encode key.toList).length < UInt32.size))

lemma encodeEntries_cons {key : String} {id : UInt32} {rest : List (String × UInt32)}
    {octets : List UInt8} :
    encodeEntries ((key, id) :: rest) = .ok octets ↔
      ∃ head tail, Frame.string key = .ok head ∧ encodeEntries rest = .ok tail ∧
        head ++ Frame.word id ++ tail = octets := by
  rw [encodeEntries, bind_eq_ok]
  constructor
  · rintro ⟨head, hhead, h⟩
    obtain ⟨tail, htail, hoctets⟩ := bind_eq_ok.mp h
    exact ⟨head, tail, hhead, htail, Except.ok.inj hoctets⟩
  · rintro ⟨head, tail, hhead, htail, rfl⟩
    exact ⟨head, hhead, bind_eq_ok.mpr ⟨tail, htail, rfl⟩⟩

lemma exists_encodeEntries {entries : List (String × UInt32)}
    (h : ∀ entry ∈ entries, Framable entry.1) : ∃ octets, encodeEntries entries = .ok octets := by
  induction entries with
  | nil => exact ⟨[], rfl⟩
  | cons entry rest ih =>
    obtain ⟨key, id⟩ := entry
    rw [List.forall_mem_cons] at h
    obtain ⟨tail, htail⟩ := ih h.2
    exact ⟨_, encodeEntries_cons.mpr ⟨_, tail, Frame.string_eq_ok.mpr ⟨h.1, rfl⟩, htail, rfl⟩⟩

/-- Each entry takes at least the octets that a count of entries promises. -/
lemma le_length_encodeEntries {entries : List (String × UInt32)} {octets : List UInt8}
    (h : encodeEntries entries = .ok octets) : entries.length * leastEntrySize ≤ octets.length := by
  induction entries generalizing octets with
  | nil => simp
  | cons entry rest ih =>
    obtain ⟨key, id⟩ := entry
    obtain ⟨head, tail, hhead, htail, rfl⟩ := encodeEntries_cons.mp h
    have hkey := Frame.le_length_string hhead
    have hrest := ih htail
    rw [leastEntrySize] at hrest ⊢
    simp only [List.length_append, Frame.length_word, List.length_cons]
    omega

/-- A table has a file if its entries can be counted, and the octets of each key. -/
theorem exists_encode {table : Table} (hsize : table.size < UInt32.size)
    (hkeys : ∀ entry ∈ table.entries, Framable entry.1) : ∃ octets, table.encode = .ok octets := by
  obtain ⟨tail, htail⟩ := exists_encodeEntries hkeys
  have hhead := Frame.count_eq_ok.mpr ⟨hsize, rfl⟩
  exact ⟨_, bind_eq_ok.mpr ⟨_, hhead, bind_eq_ok.mpr ⟨tail, htail, rfl⟩⟩⟩

/-! ## Reading -/

/-- The entries that were written are inserted. -/
lemma decodeEntries_encodeEntries {entries : List (String × UInt32)} {octets : List UInt8}
    (h : encodeEntries entries = .ok octets) (table : Table) (rest : List UInt8) (offset : Nat) :
    decodeEntries entries.length table ⟨octets ++ rest, offset⟩
      = (liftFault (table.insertAll entries)).map
          fun later => (later, ⟨rest, offset + octets.length⟩) := by
  induction entries generalizing octets table offset with
  | nil =>
    cases h
    rfl
  | cons entry others ih =>
    obtain ⟨key, id⟩ := entry
    obtain ⟨head, tail, hhead, htail, rfl⟩ := encodeEntries_cons.mp h
    rw [List.length_cons, decodeEntries, insertAll]
    simp only [List.append_assoc, Frame.readString_string hhead, Frame.readWord_word, liftError,
      ok_bind]
    cases hinsert : table.insert key id with
    | error fault => rfl
    | ok inserted =>
      simp only [liftFault, ok_bind, ih htail, List.length_append, Frame.length_word,
        Nat.add_assoc]

/-- **A table is read back** by inserting its entries in their order. -/
theorem decode_encode {table : Table} {octets : List UInt8} (h : table.encode = .ok octets)
    (mode : Mode) : decode mode octets = liftFault ((empty mode).insertAll table.entries) := by
  obtain ⟨head, hhead, hrest⟩ := bind_eq_ok.mp h
  obtain ⟨tail, htail, hoctets⟩ := bind_eq_ok.mp hrest
  obtain ⟨hsize, rfl⟩ := Frame.count_eq_ok.mp hhead
  obtain rfl := Except.ok.inj hoctets
  have hentries := decodeEntries_encodeEntries htail (empty mode) [] (0 + 4)
  rw [List.append_nil] at hentries
  rw [decode, Frame.readCount_word hsize (le_length_encodeEntries htail), liftError, ok_bind]
  simp only [size, hentries]
  cases (empty mode).insertAll table.entries <;> rfl

/-! ## What is inserted -/

lemma insertAll_forward_from {done rest : List (String × UInt32)}
    (h : ((done ++ rest).map Prod.fst).Nodup) :
    (⟨.forward, done, []⟩ : Table).insertAll rest = .ok ⟨.forward, done ++ rest, []⟩ := by
  induction rest generalizing done with
  | nil => rw [List.append_nil, insertAll]
  | cons entry rest ih =>
    obtain ⟨key, id⟩ := entry
    have hnew : (⟨.forward, done, []⟩ : Table).lookup key = none := by
      rw [lookup_eq_none]
      rw [List.map_append, List.map_cons] at h
      exact (List.nodup_cons.mp (List.nodup_middle.mp h)).1 ∘ List.mem_append_left _
    have hinsert : (⟨.forward, done, []⟩ : Table).insert key id
        = .ok (id, ⟨.forward, done ++ [(key, id)], []⟩) := by
      rw [insert, hnew]
    rw [← List.singleton_append, ← List.append_assoc] at h
    rw [insertAll, hinsert, ok_bind, ih h, List.append_assoc, List.singleton_append]

/-- A forward table keeps entries with distinct keys as they are. -/
theorem insertAll_forward {entries : List (String × UInt32)} (h : (entries.map Prod.fst).Nodup) :
    (empty .forward).insertAll entries = .ok ⟨.forward, entries, []⟩ :=
  insertAll_forward_from h

lemma insertAll_listed_from {done rest : List (String × UInt32)}
    (hkeys : ((done ++ rest).map Prod.fst).Nodup)
    (hids : ((done ++ rest).map Prod.snd).Pairwise (· < ·)) :
    (listed done).insertAll rest = .ok (listed (done ++ rest)) := by
  induction rest generalizing done with
  | nil => rw [List.append_nil, insertAll]
  | cons entry rest ih =>
    obtain ⟨key, id⟩ := entry
    have hnew : done.lookup key = none := by
      change (listed done).lookup key = none
      rw [lookup_eq_none]
      rw [List.map_append, List.map_cons] at hkeys
      exact (List.nodup_cons.mp (List.nodup_middle.mp hkeys)).1 ∘ List.mem_append_left _
    have habove : ∀ entry ∈ done, entry.2 < id := by
      intro entry hentry
      rw [List.map_append, List.map_cons] at hids
      exact (List.pairwise_append.mp hids).2.2 entry.2 (List.mem_map_of_mem hentry) id
        List.mem_cons_self
    rw [← List.singleton_append, ← List.append_assoc] at hkeys hids
    rw [insertAll, insert_listed hnew habove, ok_bind, ih hkeys hids, List.append_assoc,
      List.singleton_append]

/-- A reversible table keeps entries with distinct keys and ascending ids as they are. -/
theorem insertAll_listed {entries : List (String × UInt32)} (hkeys : (entries.map Prod.fst).Nodup)
    (hids : (entries.map Prod.snd).Pairwise (· < ·)) :
    (empty .reversible).insertAll entries = .ok (listed entries) :=
  insertAll_listed_from hkeys hids

end Retrieval.Symbol.Table

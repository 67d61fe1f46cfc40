import Mathlib.Tactic.Common
import Retrieval.Proofs.Symbol.Coherence
import Retrieval.Proofs.Symbol.Reading

/-!
# Reading a table from any octets

A file of a table is read entry by entry, and each entry is inserted before the next one is read.
So what becomes of a file has two parts.  One is which entries stand in it one after the other, up
to the first that cannot be read: those are `entriesOf` the file, told without looking at any table.
The other is what becomes of inserting them.  A table is read only by inserting all entries of its
file, so it obeys the invariant (`insertAll_of_decode`, `coherent_of_decode`), and reading stops at
a fault exactly if inserting them does (`decode_eq_fault`).

A forward table never stops.  A reversible one stops exactly if the file `RunsOutOfIds`
(`decode_eq_fault_iff`).
-/

namespace Retrieval.Symbol.Table

open Retrieval.Frame (ReadError Reader)

/-! ## The entries of a file -/

/-- The entries that stand in front of a reader, `count` at most, up to the first that cannot be
read. -/
def entriesIn : (count : Nat) → Reader → List (String × UInt32)
  | 0, _ => []
  | count + 1, reader =>
    match reader.readString "symbol key" with
    | .error _ => []
    | .ok (key, reader) =>
      match reader.readWord "symbol id" with
      | .error _ => []
      | .ok (id, reader) => (key, id) :: entriesIn count reader

/-- The entries of a file, up to the first that cannot be read; none if their count cannot. -/
def entriesOf (octets : List UInt8) : List (String × UInt32) :=
  match (⟨octets, 0⟩ : Reader).readCount "symbol entry count" leastEntrySize with
  | .error _ => []
  | .ok (count, reader) => entriesIn count reader

/-- What inserting the entries comes to is seen in the outcome of reading them. -/
lemma decodeEntries_spec (count : Nat) (table : Table) (reader : Reader) :
    match table.insertAll (entriesIn count reader) with
    | .error fault => decodeEntries count table reader = .error (.fault fault)
    | .ok later =>
      (∃ left, decodeEntries count table reader = .ok (later, left)) ∨
        ∃ reason, decodeEntries count table reader = .error (.error reason) := by
  induction count generalizing table reader with
  | zero => exact Or.inl ⟨reader, rfl⟩
  | succ count ih =>
    rw [decodeEntries, entriesIn]
    cases hkey : reader.readString "symbol key" with
    | error reason => exact Or.inr ⟨reason, rfl⟩
    | ok read =>
      obtain ⟨key, reader⟩ := read
      simp only [liftError, ok_bind]
      cases hid : reader.readWord "symbol id" with
      | error reason => exact Or.inr ⟨reason, rfl⟩
      | ok read =>
        obtain ⟨id, reader⟩ := read
        simp only [ok_bind, insertAll]
        cases hinsert : table.insert key id with
        | error fault => rfl
        | ok inserted => exact ih inserted.2 reader

/-- **What reading a file comes to** is seen in inserting its entries: it stops at the same fault,
and a table that it yields is the one that they make. -/
lemma decode_spec (mode : Mode) (octets : List UInt8) :
    match (empty mode).insertAll (entriesOf octets) with
    | .error fault => decode mode octets = .error (.fault fault)
    | .ok later =>
      decode mode octets = .ok later ∨ ∃ reason, decode mode octets = .error (.error reason) := by
  rw [decode, entriesOf]
  cases hcount : (⟨octets, 0⟩ : Reader).readCount "symbol entry count" leastEntrySize with
  | error reason => exact Or.inr ⟨reason, rfl⟩
  | ok read =>
    obtain ⟨count, reader⟩ := read
    simp only [liftError, ok_bind]
    have hentries := decodeEntries_spec count (empty mode) reader
    cases hinsert : (empty mode).insertAll (entriesIn count reader) with
    | error fault =>
      rw [hinsert] at hentries
      simp only [hentries, error_bind]
    | ok later =>
      rw [hinsert] at hentries
      rcases hentries with ⟨left, hread⟩ | ⟨reason, hread⟩
      · simp only [hread, ok_bind]
        cases hfinish : left.finish with
        | error reason => exact Or.inr ⟨reason, rfl⟩
        | ok _ => exact Or.inl rfl
      · exact Or.inr ⟨reason, by simp only [hread, error_bind]⟩

/-- A table that is read comes of inserting the entries of the file. -/
theorem insertAll_of_decode {mode : Mode} {octets : List UInt8} {table : Table}
    (h : decode mode octets = .ok table) :
    (empty mode).insertAll (entriesOf octets) = .ok table := by
  have hspec := decode_spec mode octets
  cases hinsert : (empty mode).insertAll (entriesOf octets) with
  | error fault =>
    rw [hinsert] at hspec
    simp [h] at hspec
  | ok later =>
    rw [hinsert] at hspec
    simp only [h, Except.ok.injEq, reduceCtorEq, exists_false, or_false] at hspec
    rw [hspec]

/-- Reading stops at a fault exactly if inserting the entries of the file does. -/
theorem decode_eq_fault {mode : Mode} {octets : List UInt8} {fault : Fault} :
    decode mode octets = .error (.fault fault) ↔
      (empty mode).insertAll (entriesOf octets) = .error fault := by
  have hspec := decode_spec mode octets
  cases hinsert : (empty mode).insertAll (entriesOf octets) with
  | error met =>
    rw [hinsert] at hspec
    simp [hspec]
  | ok later =>
    rw [hinsert] at hspec
    rcases hspec with hread | ⟨reason, hread⟩ <;> simp [hread]

/-! ## What is read obeys the invariant -/

lemma insertAll_append {table : Table} {done rest : List (String × UInt32)} :
    table.insertAll (done ++ rest)
      = (table.insertAll done >>= fun later => later.insertAll rest) := by
  induction done generalizing table with
  | nil => rfl
  | cons entry done ih =>
    obtain ⟨key, id⟩ := entry
    rw [List.cons_append, insertAll, insertAll]
    cases table.insert key id with
    | error fault => rfl
    | ok inserted => exact ih

/-- A run of insertions preserves the invariant and the mode. -/
lemma Coherent.insertAll {table later : Table} (h : table.Coherent)
    {entries : List (String × UInt32)} (hinsert : table.insertAll entries = .ok later) :
    later.Coherent ∧ later.mode = table.mode := by
  induction entries generalizing table with
  | nil =>
    cases hinsert
    exact ⟨h, rfl⟩
  | cons entry rest ih =>
    obtain ⟨key, id⟩ := entry
    obtain ⟨⟨bound, next⟩, hnext, hrest⟩ := bind_eq_ok.mp hinsert
    obtain ⟨hlater, hmode⟩ := ih (h.insert hnext) hrest
    exact ⟨hlater, hmode.trans (mode_insert hnext)⟩

/-- **Whatever octets a table is read from**, it obeys the invariant. -/
theorem coherent_of_decode {mode : Mode} {octets : List UInt8} {table : Table}
    (h : decode mode octets = .ok table) : table.Coherent ∧ table.mode = mode :=
  (Coherent.empty mode).insertAll (insertAll_of_decode h)

/-! ## When reading stops -/

/-- A run of insertions stops at the first entry that cannot be inserted. -/
lemma insertAll_eq_error {table : Table} {entries : List (String × UInt32)} {fault : Fault} :
    table.insertAll entries = .error fault ↔
      ∃ done key proposed rest before, entries = done ++ (key, proposed) :: rest ∧
        table.insertAll done = .ok before ∧ before.insert key proposed = .error fault := by
  constructor
  · intro h
    induction entries generalizing table with
    | nil => cases h
    | cons entry others ih =>
      obtain ⟨key, proposed⟩ := entry
      rcases bind_eq_error.mp h with hfirst | ⟨⟨id, next⟩, hnext, hrest⟩
      · exact ⟨[], key, proposed, others, table, rfl, rfl, hfirst⟩
      · obtain ⟨done, later, wanted, rest, before, rfl, hdone, hstop⟩ := ih hrest
        refine ⟨(key, proposed) :: done, later, wanted, rest, before, rfl, ?_, hstop⟩
        exact bind_eq_ok.mpr ⟨_, hnext, hdone⟩
  · rintro ⟨done, key, proposed, rest, before, rfl, hdone, hstop⟩
    rw [insertAll_append, hdone]
    exact bind_eq_error.mpr (Or.inr ⟨before, rfl, bind_eq_error.mpr (Or.inl hstop)⟩)

/-- In the order of a file, an entry with a new key comes up when its id and every id above it are
taken by the entries before it. -/
def RunsOutOfIds (octets : List UInt8) : Prop :=
  ∃ done key proposed rest before, entriesOf octets = done ++ (key, proposed) :: rest ∧
    (empty .reversible).insertAll done = .ok before ∧ before.lookup key = none ∧
    ∀ id, proposed ≤ id → id ∈ before.ids

/-- **When reading a table stops.**  A forward table is always read or refused with an error; the
reading of a reversible table stops exactly if the file runs out of ids. -/
theorem decode_eq_fault_iff {mode : Mode} {octets : List UInt8} {fault : Fault} :
    decode mode octets = .error (.fault fault) ↔
      fault = .idsExhausted ∧ mode = .reversible ∧ RunsOutOfIds octets := by
  rw [decode_eq_fault, insertAll_eq_error]
  constructor
  · rintro ⟨done, key, proposed, rest, before, hentries, hdone, hstop⟩
    obtain ⟨hbefore, hmode⟩ := (Coherent.empty mode).insertAll hdone
    obtain ⟨rfl, hreversible, hnew, htaken⟩ := hbefore.insert_eq_error.mp hstop
    obtain rfl : mode = .reversible := hmode.symm.trans hreversible
    exact ⟨rfl, rfl, done, key, proposed, rest, before, hentries, hdone, hnew, htaken⟩
  · rintro ⟨rfl, rfl, done, key, proposed, rest, before, hentries, hdone, hnew, htaken⟩
    obtain ⟨hbefore, hmode⟩ := (Coherent.empty .reversible).insertAll hdone
    exact ⟨done, key, proposed, rest, before, hentries, hdone,
      hbefore.insert_eq_error.mpr ⟨rfl, hmode, hnew, htaken⟩⟩

end Retrieval.Symbol.Table

import Mathlib.Tactic.Common
import Retrieval.Distinct
import Retrieval.Error
import Retrieval.Proofs.Symbol.RoundTrip

/-!
# Which octets are files of symbol tables

A file counts entries, and an entry is its key, a string, with its id behind it: `fileOf` writes any
entries in this way, whether or not a table could hold them (`IsFile`).  The entries that are read
from octets write these octets again (`decodeEntries_reads`), and what is written as a file is read
as its entries (`entriesOf_fileOf`).  So exactly the files are read, unless inserting the entries
stops, and no count of entries is ever thought implausible.

A file may bind a key twice or an id twice.  Reading keeps the first entry of each key, in the order
of the file (`keys_of_insertAll`), and a reversible table moves an id that is taken.  The table is
written in one form only, so a file comes back octet for octet exactly if neither happened
(`encode_of_decode`).
-/

namespace Retrieval.Symbol.Table

open Retrieval.Frame (ReadError Reader)

variable {entries : List (String × UInt32)} {octets : List UInt8} {mode : Mode} {table : Table}

/-! ## The format -/

/-- The frames of an entry: its key as a string, and its id. -/
def entryFrames (entry : String × UInt32) : List UInt8 :=
  let key := Utf8.encode entry.1.toList
  Frame.word (UInt32.ofNat key.length) ++ key ++ Frame.word entry.2

/-- The file of entries: their count, and their frames one behind the other. -/
def fileOf (entries : List (String × UInt32)) : List UInt8 :=
  Frame.word (UInt32.ofNat entries.length) ++ entries.flatMap entryFrames

/-- Whether all that a file counts can be counted with 32 bits: the entries, and the octets of each
key. -/
def Listable (entries : List (String × UInt32)) : Prop :=
  entries.length < UInt32.size ∧ ∀ entry ∈ entries, Framable entry.1

instance (entries : List (String × UInt32)) : Decidable (Listable entries) :=
  inferInstanceAs (Decidable (_ ∧ _))

/-- Whether octets are the file of some entries, with nothing left over. -/
def IsFile (octets : List UInt8) : Prop :=
  ∃ entries, Listable entries ∧ fileOf entries = octets

lemma encodeEntries_eq_ok :
    encodeEntries entries = .ok octets ↔
      (∀ entry ∈ entries, Framable entry.1) ∧ entries.flatMap entryFrames = octets := by
  induction entries generalizing octets with
  | nil => simp [encodeEntries]
  | cons entry rest ih =>
    obtain ⟨key, id⟩ := entry
    simp only [encodeEntries_cons, Frame.string_eq_ok, ih, List.forall_mem_cons, List.flatMap_cons,
      entryFrames]
    constructor
    · rintro ⟨head, tail, ⟨hkey, rfl⟩, ⟨hrest, rfl⟩, hoctets⟩
      exact ⟨⟨hkey, hrest⟩, hoctets⟩
    · rintro ⟨⟨hkey, hrest⟩, hoctets⟩
      exact ⟨_, _, ⟨hkey, rfl⟩, ⟨hrest, rfl⟩, hoctets⟩

/-- **A table is written as the file of its entries**, exactly if they can be counted. -/
theorem encode_eq_ok :
    table.encode = .ok octets ↔ Listable table.entries ∧ fileOf table.entries = octets := by
  unfold Table.encode Listable fileOf
  simp only [bind_eq_ok, Frame.count_eq_ok, encodeEntries_eq_ok, size, pure, Except.pure,
    Except.ok.injEq]
  constructor
  · rintro ⟨head, ⟨hlength, rfl⟩, tail, ⟨hkeys, rfl⟩, hoctets⟩
    exact ⟨⟨hlength, hkeys⟩, hoctets⟩
  · rintro ⟨⟨hlength, hkeys⟩, hoctets⟩
    exact ⟨_, ⟨hlength, rfl⟩, _, ⟨hkeys, rfl⟩, hoctets⟩

/-! ## What a file is read as -/

/-- The count of a file is never thought too high for what follows it. -/
lemma readCount_fileOf (h : Listable entries) :
    (⟨fileOf entries, 0⟩ : Reader).readCount "symbol entry count" leastEntrySize
      = .ok (entries.length, ⟨entries.flatMap entryFrames, 4⟩) := by
  have hframes := encodeEntries_eq_ok.mpr ⟨h.2, rfl⟩
  exact Frame.readCount_word h.1 (le_length_encodeEntries hframes) "symbol entry count" 0

lemma entriesIn_flatMap (h : ∀ entry ∈ entries, Framable entry.1) (rest : List UInt8)
    (offset : Nat) :
    entriesIn entries.length ⟨entries.flatMap entryFrames ++ rest, offset⟩ = entries := by
  induction entries generalizing offset with
  | nil => rfl
  | cons entry others ih =>
    obtain ⟨key, id⟩ := entry
    rw [List.forall_mem_cons] at h
    have hkey := Frame.string_eq_ok.mpr ⟨h.1, rfl⟩
    simp only [List.length_cons, List.flatMap_cons, entryFrames, List.append_assoc, entriesIn]
    rw [← List.append_assoc, Frame.readString_string hkey]
    simp only [Frame.readWord_word, ih h.2]

/-- The entries of a file are those that it was written of. -/
theorem entriesOf_fileOf (h : Listable entries) : entriesOf (fileOf entries) = entries := by
  have hentries := entriesIn_flatMap h.2 [] 4
  rw [List.append_nil] at hentries
  rw [entriesOf, readCount_fileOf h]
  exact hentries

/-- No octets are the files of two lists of entries. -/
lemma fileOf_inj {others : List (String × UInt32)} (h : Listable entries)
    (hothers : Listable others) (hfile : fileOf entries = fileOf others) : entries = others := by
  rw [← entriesOf_fileOf h, hfile, entriesOf_fileOf hothers]

/-- A file is read by inserting its entries. -/
theorem decode_fileOf (h : Listable entries) (mode : Mode) :
    decode mode (fileOf entries) = liftFault ((empty mode).insertAll entries) := by
  have hencode : (⟨mode, entries, []⟩ : Table).encode = .ok (fileOf entries) :=
    encode_eq_ok.mpr ⟨h, rfl⟩
  exact decode_encode hencode mode

/-- What was read as entries are the frames of these entries, as many as there should be. -/
lemma decodeEntries_reads {count : Nat} {later : Table} {reader left : Reader}
    (h : decodeEntries count table reader = .ok (later, left)) :
    ∃ entries : List (String × UInt32), entries.length = count ∧
      (∀ entry ∈ entries, Framable entry.1) ∧
      reader.rest = entries.flatMap entryFrames ++ left.rest := by
  induction count generalizing table reader with
  | zero =>
    cases h
    exact ⟨[], rfl, fun _ hentry => absurd hentry List.not_mem_nil, rfl⟩
  | succ count ih =>
    rw [decodeEntries] at h
    obtain ⟨⟨key, behindKey⟩, hkey, h⟩ := bind_eq_ok.mp h
    obtain ⟨⟨id, behindId⟩, hid, h⟩ := bind_eq_ok.mp h
    obtain ⟨⟨_, next⟩, -, h⟩ := bind_eq_ok.mp h
    obtain ⟨entries, rfl, hentries, hrest⟩ := ih h
    obtain ⟨frame, hframe, hfront⟩ := Frame.rest_eq_of_readString (liftError_eq_ok.mp hkey)
    obtain ⟨hframable, rfl⟩ := Frame.string_eq_ok.mp hframe
    refine ⟨(key, id) :: entries, rfl, List.forall_mem_cons.mpr ⟨hframable, hentries⟩, ?_⟩
    rw [hfront, Frame.rest_eq_of_readWord (liftError_eq_ok.mp hid), hrest, List.flatMap_cons,
      entryFrames]
    simp only [List.append_assoc]

/-- **Octets are read as a table** exactly if they are a file and inserting its entries comes to
that table. -/
theorem decode_eq_ok :
    decode mode octets = .ok table ↔
      ∃ entries, Listable entries ∧ fileOf entries = octets ∧
        (empty mode).insertAll entries = .ok table := by
  constructor
  · intro h
    obtain ⟨entries, hlistable, hfile⟩ : IsFile octets := by
      obtain ⟨⟨count, behind⟩, hcount, h⟩ := bind_eq_ok.mp h
      obtain ⟨⟨later, left⟩, hentries, h⟩ := bind_eq_ok.mp h
      obtain ⟨_, hfinish, -⟩ := bind_eq_ok.mp h
      obtain ⟨hlength, hfront⟩ := Frame.rest_eq_of_readCount (liftError_eq_ok.mp hcount)
      obtain ⟨entries, rfl, hframable, hrest⟩ := decodeEntries_reads hentries
      refine ⟨entries, ⟨hlength, hframable⟩, ?_⟩
      rw [hrest, Frame.rest_eq_of_finish (liftError_eq_ok.mp hfinish), List.append_nil] at hfront
      exact hfront.symm
    refine ⟨entries, hlistable, hfile, ?_⟩
    rw [← entriesOf_fileOf hlistable, hfile]
    exact insertAll_of_decode h
  · rintro ⟨entries, hlistable, rfl, hinsert⟩
    rw [decode_fileOf hlistable, hinsert]
    rfl

/-! ## What becomes of the entries -/

/-- Inserting entries binds their keys in the order of their first entries. -/
lemma keys_of_insertAll (h : (empty mode).insertAll entries = .ok table) :
    table.entries.map Prod.fst = distinct (entries.map Prod.fst) := by
  induction entries using List.reverseRecOn generalizing table with
  | nil =>
    cases h
    rfl
  | append_singleton done entry ih =>
    obtain ⟨key, proposed⟩ := entry
    rw [insertAll_append] at h
    obtain ⟨before, hdone, h⟩ := bind_eq_ok.mp h
    obtain ⟨⟨id, later⟩, hinsert, h⟩ := bind_eq_ok.mp h
    cases h
    have hkeys := ih hdone
    have hbound : before.lookup key = none ↔ key ∉ done.map Prod.fst := by
      rw [lookup_eq_none, hkeys, mem_distinct]
    rw [List.map_append, List.map_singleton, distinct_append_singleton]
    rcases insert_cases hinsert with ⟨hheld, rfl⟩ | ⟨hnew, -, -, rfl⟩ | ⟨hnew, -, -, rfl⟩
    · have hmem : key ∈ done.map Prod.fst := by
        by_contra hnew
        rw [hbound.mpr hnew] at hheld
        cases hheld
      rw [if_pos hmem, hkeys]
    · rw [if_neg (hbound.mp hnew), ← hkeys, List.map_append, List.map_singleton]
    · rw [if_neg (hbound.mp hnew), ← hkeys, List.map_append, List.map_singleton]

/-- An insertion into a forward table binds its key to the proposed id, unless it is bound. -/
lemma lookup_insert_forward {later : Table} {key other : String} {proposed id : UInt32}
    (hmode : table.mode = .forward) (h : table.insert key proposed = .ok (id, later)) :
    later.lookup other = (table.lookup other).or (if other = key then some proposed else none) := by
  rcases insert_cases h with ⟨hheld, rfl⟩ | ⟨-, -, rfl, rfl⟩ | ⟨-, hreversible, -⟩
  · by_cases hother : other = key
    · rw [hother, hheld, Option.some_or]
    · rw [if_neg hother, Option.or_none]
  · exact lookup_append
  · rw [hmode] at hreversible
    cases hreversible

lemma lookup_of_insertAll_from {later : Table} (hmode : table.mode = .forward)
    (h : table.insertAll entries = .ok later) (key : String) :
    later.lookup key = (table.lookup key).or (entries.lookup key) := by
  induction entries generalizing table with
  | nil =>
    cases h
    rw [List.lookup_nil, Option.or_none]
  | cons entry rest ih =>
    obtain ⟨first, proposed⟩ := entry
    obtain ⟨⟨id, next⟩, hinsert, hrest⟩ := bind_eq_ok.mp h
    have hfirst : ((first, proposed) :: rest).lookup key
        = (if key = first then some proposed else none).or (rest.lookup key) := by
      by_cases hkey : key = first
      · simp [hkey]
      · have hne : (key == first) = false := beq_eq_false_iff_ne.mpr hkey
        rw [List.lookup_cons, hne, if_neg hkey, Option.none_or]
    rw [ih ((mode_insert hinsert).trans hmode) hrest, lookup_insert_forward hmode hinsert,
      Option.or_assoc, hfirst]

/-- A forward table that entries are inserted into binds each key to the id of its first entry. -/
lemma lookup_of_insertAll (h : (empty .forward).insertAll entries = .ok table) (key : String) :
    table.lookup key = entries.lookup key :=
  lookup_of_insertAll_from rfl h key

/-- Inserting leaves the entries as they are exactly if no key comes twice and, in a reversible
table, no id does. -/
lemma entries_of_insertAll (h : (empty mode).insertAll entries = .ok table) :
    table.entries = entries ↔ (entries.map Prod.fst).Nodup ∧
      (mode = .reversible → (entries.map Prod.snd).Nodup) := by
  obtain ⟨hcoherent, hmode⟩ := (Coherent.empty mode).insertAll h
  constructor
  · rintro rfl
    exact ⟨hcoherent.keys, fun hreversible => hcoherent.nodup_values (hmode.trans hreversible)⟩
  · rintro ⟨hkeys, hids⟩
    cases mode with
    | forward =>
      rw [insertAll_forward hkeys] at h
      cases h
      rfl
    | reversible =>
      obtain ⟨later, hlater, hentries⟩ := (probed_self (hids rfl)).exists_insertAll hkeys
      obtain rfl : later = table := Except.ok.inj (hlater.symm.trans h)
      exact hentries

/-! ## Acceptance -/

lemma decode_forward_ne_fault {fault : Fault} : decode .forward octets ≠ .error (.fault fault) := by
  intro h
  obtain ⟨-, hmode, -⟩ := decode_eq_fault_iff.mp h
  cases hmode

lemma exists_decode_forward_iff :
    (∃ table, decode .forward octets = .ok table) ↔ IsFile octets := by
  constructor
  · rintro ⟨table, h⟩
    obtain ⟨entries, hlistable, hfile, -⟩ := decode_eq_ok.mp h
    exact ⟨entries, hlistable, hfile⟩
  · rintro ⟨entries, hlistable, rfl⟩
    have hread := decode_fileOf hlistable .forward
    cases hinsert : (empty .forward).insertAll entries with
    | ok table =>
      rw [hinsert] at hread
      exact ⟨table, hread⟩
    | error fault =>
      rw [hinsert] at hread
      exact absurd hread decode_forward_ne_fault

/-- **A file is written again as it was** exactly if it lists no key twice and, read as a reversible
table, no id. -/
theorem encode_of_decode (hlistable : Listable entries)
    (h : (empty mode).insertAll entries = .ok table) :
    table.encode = .ok (fileOf entries) ↔ (entries.map Prod.fst).Nodup ∧
      (mode = .reversible → (entries.map Prod.snd).Nodup) := by
  rw [encode_eq_ok, ← entries_of_insertAll h]
  constructor
  · rintro ⟨htable, hfile⟩
    exact fileOf_inj htable hlistable hfile
  · intro hentries
    rw [hentries]
    exact ⟨hlistable, rfl⟩

/-- **Symbol octets are read exactly if they are the file of some entries**, and are a decode error
otherwise; the count in front of a file is always accepted.  The keys are bound in the order of
their first entries, in a forward table to the ids of these entries.  In either mode the table that
is read is written again as the same octets exactly if no key is listed twice and, where ids are
kept apart, no id. -/
theorem symbol_octets_are_read_iff_formatted (octets : List UInt8) :
    ((∃ table, decode .forward octets = .ok table) ↔ IsFile octets) ∧
    ((∃ reason, decode .forward octets = .error (.error reason) ∧
      (Error.read reason).kind = .decode) ↔ ¬ IsFile octets) ∧
    (IsFile octets → ∃ read,
      (⟨octets, 0⟩ : Reader).readCount "symbol entry count" leastEntrySize = .ok read) ∧
    ∀ mode table, decode mode octets = .ok table →
      ∃ entries, Listable entries ∧ fileOf entries = octets ∧
        table.entries.map Prod.fst = distinct (entries.map Prod.fst) ∧
        (mode = .forward → ∀ key, table.lookup key = entries.lookup key) ∧
        (table.encode = .ok octets ↔ (entries.map Prod.fst).Nodup ∧
          (mode = .reversible → (entries.map Prod.snd).Nodup)) := by
  refine ⟨exists_decode_forward_iff, ?_, ?_, ?_⟩
  · rw [← exists_decode_forward_iff]
    cases hread : decode .forward octets with
    | ok table => simp
    | error failure =>
      cases failure with
      | fault met => exact absurd hread decode_forward_ne_fault
      | error reason => exact ⟨fun _ => nofun, fun _ => ⟨reason, rfl, rfl⟩⟩
  · rintro ⟨entries, hlistable, rfl⟩
    exact ⟨_, readCount_fileOf hlistable⟩
  · intro mode table h
    obtain ⟨entries, hlistable, rfl, hinsert⟩ := decode_eq_ok.mp h
    refine ⟨entries, hlistable, rfl, keys_of_insertAll hinsert, ?_,
      encode_of_decode hlistable hinsert⟩
    rintro rfl key
    exact lookup_of_insertAll hinsert key

/-- The second entry of a key is left out, and an id that is taken is moved. -/
example : (decode .reversible (fileOf [("b", 7), ("a", 7), ("b", 9)])).toOption.map Table.entries
    = some [("b", 7), ("a", 8)] := by
  decide +kernel

end Retrieval.Symbol.Table

import Mathlib.Tactic.Common
import Retrieval.Proofs.Frame.Damage
import Retrieval.Proofs.Symbol.Decoding

/-!
# Damaged tables

What was read of a table is read again in front of more octets, so of two files one of which
continues the other not both are read to their end (`decode_append`).  A damaged file is therefore
not read.  Nor does it stop the reading: with octets missing it has only the first of the entries,
and they were inserted before.  So a damaged file is refused with an error, whatever the mode
(`decode_of_damaged`).
-/

namespace Retrieval.Symbol.Table

open Retrieval.Frame (Damaged ReadError Reader)

/-! ## Octets behind the entries -/

/-- Entries that were read are read in front of more octets. -/
lemma decodeEntries_append {count : Nat} {table later : Table} {reader left : Reader}
    (h : decodeEntries count table reader = .ok (later, left)) (more : List UInt8) :
    decodeEntries count table (reader.append more) = .ok (later, left.append more) := by
  induction count generalizing table reader with
  | zero =>
    cases h
    rfl
  | succ count ih =>
    rw [decodeEntries] at h ⊢
    obtain ⟨⟨key, behindKey⟩, hkey, h⟩ := bind_eq_ok.mp h
    obtain ⟨⟨id, behindId⟩, hid, h⟩ := bind_eq_ok.mp h
    obtain ⟨⟨bound, next⟩, hinsert, h⟩ := bind_eq_ok.mp h
    rw [liftError_eq_ok] at hkey hid
    simp only [Reader.readString_append hkey, Reader.readWord_append hid, liftError, ok_bind,
      hinsert, ih h]

/-- **A file that is read to its end is refused with more octets behind it.** -/
lemma decode_append {mode : Mode} {octets more : List UInt8} {table : Table}
    (h : decode mode octets = .ok table) (hmore : more ≠ []) :
    decode mode (octets ++ more) = .error (.error (.trailing more.length)) := by
  rw [decode] at h ⊢
  obtain ⟨⟨count, behindCount⟩, hcount, h⟩ := bind_eq_ok.mp h
  obtain ⟨⟨later, left⟩, hentries, h⟩ := bind_eq_ok.mp h
  obtain ⟨⟨⟩, hfinish, h⟩ := bind_eq_ok.mp h
  rw [liftError_eq_ok] at hcount hfinish
  rw [← Reader.append_mk, Reader.readCount_append hcount more]
  simp only [liftError, ok_bind, decodeEntries_append hentries more,
    Reader.finish_append hfinish hmore, error_bind]

/-! ## Missing octets -/

lemma entriesIn_append (count : Nat) (reader : Reader) (more : List UInt8) :
    entriesIn count reader <+: entriesIn count (reader.append more) := by
  induction count generalizing reader with
  | zero => exact List.prefix_rfl
  | succ count ih =>
    rw [entriesIn, entriesIn]
    cases hkey : reader.readString "symbol key" with
    | error reason => exact List.nil_prefix
    | ok read =>
      obtain ⟨key, behindKey⟩ := read
      rw [Reader.readString_append hkey]
      dsimp only
      cases hid : behindKey.readWord "symbol id" with
      | error reason => exact List.nil_prefix
      | ok read =>
        obtain ⟨id, behindId⟩ := read
        rw [Reader.readWord_append hid]
        exact List.cons_prefix_cons.mpr ⟨rfl, ih behindId⟩

/-- A file with octets missing has the first of the entries. -/
lemma entriesOf_append (octets more : List UInt8) :
    entriesOf octets <+: entriesOf (octets ++ more) := by
  rw [entriesOf, entriesOf]
  cases hcount : (⟨octets, 0⟩ : Reader).readCount "symbol entry count" leastEntrySize with
  | error reason => exact List.nil_prefix
  | ok read =>
    obtain ⟨count, behind⟩ := read
    rw [← Reader.append_mk, Reader.readCount_append hcount more]
    exact entriesIn_append count behind more

/-- Reading does not stop at a file that a file which was read continues. -/
lemma decode_ne_fault_of_append {mode : Mode} {octets more : List UInt8} {table : Table}
    (h : decode mode (octets ++ more) = .ok table) (fault : Fault) :
    decode mode octets ≠ .error (.fault fault) := by
  obtain ⟨others, hothers⟩ := entriesOf_append octets more
  have hinsert := insertAll_of_decode h
  rw [← hothers, insertAll_append] at hinsert
  obtain ⟨later, hlater, -⟩ := bind_eq_ok.mp hinsert
  rw [Ne, decode_eq_fault, hlater]
  exact fun hfault => by cases hfault

/-- **A damaged file is refused**, if the file was read in the same mode. -/
theorem decode_of_damaged {mode : Mode} {octets found : List UInt8} {table : Table}
    (h : decode mode octets = .ok table) (hfound : Damaged octets found) :
    ∃ reason, decode mode found = .error (.error reason) := by
  obtain ⟨more, hmore, rfl | rfl⟩ := hfound
  · cases hread : decode mode found with
    | ok other =>
      rw [decode_append hread hmore] at h
      cases h
    | error failure =>
      cases failure with
      | fault fault => exact absurd hread (decode_ne_fault_of_append h fault)
      | error reason => exact ⟨reason, rfl⟩
  · exact ⟨_, decode_append h hmore⟩

end Retrieval.Symbol.Table

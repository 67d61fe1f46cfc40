import Mathlib.Tactic.Common
import Retrieval.Frame.Reader
import Retrieval.Proofs.Fault

/-!
# Octets behind a reader

A read takes octets from the front, and what is behind them it only counts, to see that enough are
left.  So whatever was read is read again in front of more octets (`readWord_append`,
`readCount_append`, `readString_append`), and only the end of the reading finds them
(`finish_append`).

A file is `Damaged` if some of its last octets are missing or if some follow them.  Decoders of
whole files tell both by the same fact: of two files one of which continues the other, not both are
read to their end.
-/

namespace Retrieval.Frame

/-- Whether the second file is the first without some of its last octets, or with more behind
them. -/
def Damaged (octets found : List UInt8) : Prop :=
  ∃ more ≠ [], octets = found ++ more ∨ found = octets ++ more

namespace Reader

/-- The reader with more octets behind those that are left. -/
def append (reader : Reader) (more : List UInt8) : Reader :=
  ⟨reader.rest ++ more, reader.offset⟩

lemma append_mk (rest : List UInt8) (offset : Nat) (more : List UInt8) :
    (⟨rest, offset⟩ : Reader).append more = ⟨rest ++ more, offset⟩ := rfl

lemma remaining_append (reader : Reader) (more : List UInt8) :
    (reader.append more).remaining = reader.remaining + more.length :=
  List.length_append

lemma advance_append {reader : Reader} {n : Nat} (h : n ≤ reader.remaining) (more : List UInt8) :
    (reader.append more).advance n = (reader.advance n).append more := by
  rw [advance, append, List.drop_append_of_le_length h]
  rfl

variable {reader left : Reader}

/-- A word that was read is read in front of more octets. -/
lemma readWord_append {what : String} {value : UInt32}
    (h : reader.readWord what = .ok (value, left)) (more : List UInt8) :
    (reader.append more).readWord what = .ok (value, left.append more) := by
  obtain ⟨rest, offset⟩ := reader
  rw [readWord] at h
  split at h
  · rename_i a b c d rest hrest
    subst hrest
    cases h
    rfl
  · cases h

/-- A count that was read is read in front of more octets. -/
lemma readCount_append {what : String} {least count : Nat}
    (h : reader.readCount what least = .ok (count, left)) (more : List UInt8) :
    (reader.append more).readCount what least = .ok (count, left.append more) := by
  rw [readCount] at h ⊢
  obtain ⟨⟨value, behind⟩, hword, h⟩ := bind_eq_ok.mp h
  rw [readWord_append hword, ok_bind]
  dsimp only at h ⊢
  split at h
  · cases h
  · rename_i hleft
    cases h
    rw [if_neg (by rw [remaining_append]; omega)]
    rfl

/-- A string that was read is read in front of more octets. -/
lemma readString_append {what value : String}
    (h : reader.readString what = .ok (value, left)) (more : List UInt8) :
    (reader.append more).readString what = .ok (value, left.append more) := by
  rw [readString] at h ⊢
  obtain ⟨⟨length, behind⟩, hword, h⟩ := bind_eq_ok.mp h
  rw [readWord_append hword, ok_bind]
  dsimp only at h ⊢
  split at h
  · cases h
  · rename_i hleft
    have hlength : length.toNat ≤ behind.remaining := Nat.not_lt.mp hleft
    have htake : (behind.append more).rest.take length.toNat = behind.rest.take length.toNat :=
      List.take_append_of_le_length hlength
    rw [if_neg (by rw [remaining_append]; omega), htake, advance_append hlength]
    split at h
    · cases h
      rfl
    · cases h

/-- The end of the reading finds octets that follow it. -/
lemma finish_append {more : List UInt8} (h : reader.finish = .ok ()) (hmore : more ≠ []) :
    (reader.append more).finish = .error (.trailing more.length) := by
  obtain ⟨rest, offset⟩ := reader
  rw [finish] at h
  split at h
  · rename_i hempty
    rw [List.isEmpty_iff] at hempty
    dsimp only at hempty
    subst hempty
    rw [finish, append, List.nil_append, if_neg (by simpa using hmore)]
    rfl
  · cases h

end Reader

end Retrieval.Frame

import Mathlib.Tactic.Common
import Retrieval.Frame.Reader
import Retrieval.Frame.Writer
import Retrieval.Proofs.Fault
import Retrieval.Proofs.Utf8

/-!
# What is written in frames is read back

A word and a string are read back whatever follows them, and the reader then stands right behind
them (`readWord_word`, `readString_string`).  A count is not read back by itself, since it is
refused if too few octets follow for its records: it is read in front of them (`readCount_word`).
What has a frame at all is told by `count_eq_ok` and `string_eq_ok`.

Conversely what was read as a word, a count or a string was written as one: its octets stand in
front of those that are left (`rest_eq_of_readWord`, `rest_eq_of_readCount`,
`rest_eq_of_readString`).
-/

namespace Retrieval.Frame

@[simp]
lemma length_word (value : UInt32) : (word value).length = 4 := rfl

/-- The four octets of a number weigh it. -/
lemma weighed_octets {n : Nat} (h : n < UInt32.size) :
    (UInt8.ofNat n).toNat + (UInt8.ofNat (n / 0x100)).toNat * 0x100
        + (UInt8.ofNat (n / 0x10000)).toNat * 0x10000
        + (UInt8.ofNat (n / 0x1000000)).toNat * 0x1000000 = n := by
  have hsize : n < 0x100000000 := h
  simp only [UInt8.toNat_ofNat']
  omega

/-- **A word is read back.** -/
theorem readWord_word (what : String) (value : UInt32) (rest : List UInt8) (offset : Nat) :
    (⟨word value ++ rest, offset⟩ : Reader).readWord what = .ok (value, ⟨rest, offset + 4⟩) := by
  have hvalue := weighed_octets value.toNat_lt
  simp only [word, Reader.readWord, List.cons_append, List.nil_append, Reader.advance]
  rw [hvalue, UInt32.ofNat_toNat]
  rfl

/-- The octets of the number that four octets weigh are these four. -/
lemma word_weighed (a b c d : UInt8) :
    word (UInt32.ofNat
      (a.toNat + b.toNat * 0x100 + c.toNat * 0x10000 + d.toNat * 0x1000000)) = [a, b, c, d] := by
  have ha := a.toNat_lt
  have hb := b.toNat_lt
  have hc := c.toNat_lt
  have hd := d.toNat_lt
  have hsize : a.toNat + b.toNat * 0x100 + c.toNat * 0x10000 + d.toNat * 0x1000000
      < UInt32.size := by
    have : UInt32.size = 0x100000000 := rfl
    omega
  simp only [word, UInt32.toNat_ofNat_of_lt' hsize, List.cons.injEq, and_true, ← UInt8.toNat_inj,
    UInt8.toNat_ofNat']
  omega

/-- **A word that was read** stands in front of what is left. -/
theorem rest_eq_of_readWord {reader left : Reader} {what : String} {value : UInt32}
    (h : reader.readWord what = .ok (value, left)) : reader.rest = word value ++ left.rest := by
  unfold Reader.readWord at h
  split at h
  · rename_i a b c d rest hrest
    cases h
    rw [word_weighed, Reader.advance, hrest]
    simp
  · cases h

/-! ## Counts -/

lemma count_eq_ok {length : Nat} {octets : List UInt8} :
    count length = .ok octets ↔ length < UInt32.size ∧ word (UInt32.ofNat length) = octets := by
  rw [count]
  split
  · rename_i h
    simp [h]
  · rename_i h
    simp [h]

/-- **A count is read back** in front of its records. -/
theorem readCount_word {length least : Nat} {rest : List UInt8} (hlength : length < UInt32.size)
    (hrest : length * least ≤ rest.length) (what : String) (offset : Nat) :
    (⟨word (UInt32.ofNat length) ++ rest, offset⟩ : Reader).readCount what least
      = .ok (length, ⟨rest, offset + 4⟩) := by
  have hneeded : ¬ rest.length < min (length * least) Reader.sizeLimit := by omega
  rw [Reader.readCount, readWord_word, ok_bind]
  simp only [UInt32.toNat_ofNat_of_lt' hlength, Reader.remaining, if_neg hneeded]
  rfl

/-- **A count that was read** stands in front of what is left. -/
theorem rest_eq_of_readCount {reader left : Reader} {what : String} {least count : Nat}
    (h : reader.readCount what least = .ok (count, left)) :
    count < UInt32.size ∧ reader.rest = word (UInt32.ofNat count) ++ left.rest := by
  unfold Reader.readCount at h
  obtain ⟨⟨value, behind⟩, hword, h⟩ := bind_eq_ok.mp h
  dsimp only at h
  split at h
  · cases h
  · cases h
    rw [UInt32.ofNat_toNat]
    exact ⟨value.toNat_lt, rest_eq_of_readWord hword⟩

/-- A reading that was ended left nothing. -/
lemma rest_eq_of_finish {reader : Reader} (h : reader.finish = .ok ()) : reader.rest = [] := by
  unfold Reader.finish at h
  split at h
  · rename_i hempty
    exact List.isEmpty_iff.mp hempty
  · cases h

/-! ## Strings -/

/-- A text has a frame if its octets can be counted. -/
lemma string_eq_ok {value : String} {octets : List UInt8} :
    string value = .ok octets ↔
      (Utf8.encode value.toList).length < UInt32.size ∧
        word (UInt32.ofNat (Utf8.encode value.toList).length) ++ Utf8.encode value.toList
          = octets := by
  rw [string, bind_eq_ok]
  constructor
  · rintro ⟨head, hhead, hoctets⟩
    obtain ⟨hlength, rfl⟩ := count_eq_ok.mp hhead
    exact ⟨hlength, Except.ok.inj hoctets⟩
  · rintro ⟨hlength, rfl⟩
    exact ⟨_, count_eq_ok.mpr ⟨hlength, rfl⟩, rfl⟩

lemma le_length_string {value : String} {octets : List UInt8} (h : string value = .ok octets) :
    4 ≤ octets.length := by
  obtain ⟨-, rfl⟩ := string_eq_ok.mp h
  rw [List.length_append, length_word]
  omega

/-- **A string is read back.** -/
theorem readString_string {value : String} {octets : List UInt8} (h : string value = .ok octets)
    (what : String) (rest : List UInt8) (offset : Nat) :
    (⟨octets ++ rest, offset⟩ : Reader).readString what
      = .ok (value, ⟨rest, offset + octets.length⟩) := by
  obtain ⟨hlength, rfl⟩ := string_eq_ok.mp h
  have hleft : ¬ (Utf8.encode value.toList ++ rest).length < (Utf8.encode value.toList).length := by
    rw [List.length_append]
    omega
  rw [List.append_assoc, Reader.readString, readWord_word, ok_bind]
  simp only [UInt32.toNat_ofNat_of_lt' hlength, Reader.remaining, if_neg hleft, List.take_left,
    Utf8.decode_encode, Reader.advance, List.drop_left, String.ofList_toList]
  rw [List.length_append, length_word, ← Nat.add_assoc]
  rfl

/-- **A string that was read** stands in front of what is left. -/
theorem rest_eq_of_readString {reader left : Reader} {what value : String}
    (h : reader.readString what = .ok (value, left)) :
    ∃ octets, string value = .ok octets ∧ reader.rest = octets ++ left.rest := by
  unfold Reader.readString at h
  obtain ⟨⟨length, behind⟩, hword, h⟩ := bind_eq_ok.mp h
  dsimp only at h
  split at h
  · cases h
  rename_i hleft
  split at h
  · rename_i text htext
    cases h
    have hoctets : Utf8.encode text = behind.rest.take length.toNat := Utf8.decode_eq_ok.mp htext
    have hlength : (Utf8.encode text).length = length.toNat := by
      rw [hoctets, List.length_take]
      exact Nat.min_eq_left (Nat.not_lt.mp hleft)
    refine ⟨word length ++ Utf8.encode text, string_eq_ok.mpr ?_, ?_⟩
    · rw [String.toList_ofList, hlength, UInt32.ofNat_toNat]
      exact ⟨length.toNat_lt, rfl⟩
    · rw [rest_eq_of_readWord hword, hoctets, Reader.advance, List.append_assoc,
        List.take_append_drop]
  · cases h

end Retrieval.Frame

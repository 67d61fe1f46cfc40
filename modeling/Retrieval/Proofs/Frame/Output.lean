import Mathlib.Data.List.Forall2
import Retrieval.Frame.Output
import Retrieval.Proofs.Frame.Input

/-!
# Frames written are frames read

A call on a writer either adds the whole frame of its value or, if that is too long for a word to
count it, nothing (`run_perform`); in particular a string whose count was refused leaves none of its
octets behind.  So calls of any number, failed ones among them, add the frames of the values of those
that succeed, in order (`snd_writeEach`), and since no frame needs to know where the next one
begins, calls that ask for values of these kinds read them back (`readAll_frames`), and nothing is
left.
-/

namespace Retrieval.Frame

/-! ## What a call writes -/

namespace Write

/-- The number that a word must hold for the call: a length, or how many octets a text has. -/
def length : Write → Nat
  | word _ => 0
  | count length => length
  | string value => (Utf8.encode value.toList).length

/-- What the call writes, as it is read back: a length is a word that holds it. -/
def value : Write → Value
  | word value => .word value
  | count length => .word (UInt32.ofNat length)
  | string value => .string value

/-- What is read back of calls: the values of those that fit, in order. -/
def values (writes : List Write) : List Value :=
  (writes.filter fun write => write.length < UInt32.size).map value

lemma values_cons_of_lt {write : Write} (h : write.length < UInt32.size) (rest : List Write) :
    values (write :: rest) = write.value :: values rest := by
  rw [values, List.filter_cons_of_pos (by simpa using h)]
  rfl

lemma values_cons_of_le {write : Write} (h : UInt32.size ≤ write.length) (rest : List Write) :
    values (write :: rest) = values rest := by
  rw [values, List.filter_cons_of_neg (by simpa using h)]
  rfl

end Write

namespace Writer

@[simp]
lemma push_nil (writer : Writer) : writer.push [] = writer := by
  rw [push, List.append_nil]
  rfl

lemma push_push (writer : Writer) (frame next : List UInt8) :
    (writer.push frame).push next = writer.push (frame ++ next) := by
  simp only [push, List.append_assoc, List.length_append, Nat.add_assoc]

end Writer

/-! ## On a writer -/

section Calls

variable (writer : Writer)

namespace Output

lemma run_count_of_lt {length : Nat} (h : length < UInt32.size) :
    (count length).run.run writer = (.ok (), writer.push (Frame.word (UInt32.ofNat length))) := by
  rw [count, if_pos h]
  rfl

lemma run_count_of_le {length : Nat} (h : UInt32.size ≤ length) :
    (count length).run.run writer = (.error ⟨length⟩, writer) := by
  rw [count, if_neg (Nat.not_lt.mpr h)]
  rfl

end Output

/-- A call whose number a word can hold adds its frame. -/
lemma run_perform_of_lt {write : Write} (h : write.length < UInt32.size) :
    write.perform.run.run writer = (.ok (), writer.push write.value.frame) := by
  cases write with
  | word value => rfl
  | count length => exact Output.run_count_of_lt writer h
  | string value =>
    rw [Write.value, Value.frame, ← Writer.push_push]
    exact run_bind_of_ok (Output.run_count_of_lt writer h)

/-- A call whose number no word can hold adds nothing. -/
lemma run_perform_of_le {write : Write} (h : UInt32.size ≤ write.length) :
    write.perform.run.run writer = (.error ⟨write.length⟩, writer) := by
  cases write with
  | word value => cases h
  | count length => exact Output.run_count_of_le writer h
  -- the count comes first, so that no octet of the text has been written yet
  | string value => exact run_bind_of_error (Output.run_count_of_le writer h)

/-- **A call adds its frame or nothing.** -/
theorem run_perform (write : Write) :
    write.perform.run.run writer
      = if write.length < UInt32.size then (.ok (), writer.push write.value.frame)
        else (.error ⟨write.length⟩, writer) := by
  split
  · rename_i h
    exact run_perform_of_lt writer h
  · rename_i h
    exact run_perform_of_le writer (Nat.not_lt.mp h)

/-- The step from a writer to the next adds the frame as well. -/
lemma write_eq (write : Write) :
    writer.write write
      = if write.length < UInt32.size then .ok (writer.push write.value.frame)
        else .error ⟨write.length⟩ := by
  cases write with
  | word value => rfl
  | count length =>
    rw [Writer.write, Writer.writeCount, count, Write.length]
    split <;> rfl
  | string value =>
    rw [Writer.write, Writer.writeString, string, count, Write.length]
    split <;> rfl

/-- **A call is the step from the writer to the next**, and the writer stays as it was if there is
no such step. -/
theorem run_perform_eq_write (write : Write) :
    write.perform.run.run writer
      = match writer.write write with
        | .ok next => (.ok (), next)
        | .error reason => (.error reason, writer) := by
  rw [run_perform, write_eq]
  split <;> rfl

lemma writeEach_cons (write : Write) (rest : List Write) :
    writeEach (write :: rest) writer
      = ((write.perform.run.run writer).1
            :: (writeEach rest (write.perform.run.run writer).2).1,
          (writeEach rest (write.perform.run.run writer).2).2) := rfl

/-- Calls fail by themselves: whether one does, and why, depends on none of the others. -/
lemma fst_writeEach (writes : List Write) :
    (writeEach writes writer).1
      = writes.map fun write =>
          if write.length < UInt32.size then .ok () else .error ⟨write.length⟩ := by
  induction writes generalizing writer with
  | nil => rfl
  | cons write rest ih =>
    rw [writeEach_cons, run_perform, List.map_cons, ih]
    split <;> rfl

/-- **Calls add the frames of the values of those that succeed.** -/
theorem snd_writeEach (writes : List Write) :
    (writeEach writes writer).2 = writer.push ((Write.values writes).flatMap Value.frame) := by
  induction writes generalizing writer with
  | nil => exact (Writer.push_nil writer).symm
  | cons write rest ih =>
    rw [writeEach_cons, ih]
    by_cases h : write.length < UInt32.size
    · rw [run_perform_of_lt writer h, Writer.push_push, Write.values_cons_of_lt h,
        List.flatMap_cons]
    · rw [run_perform_of_le writer (Nat.not_lt.mp h), Write.values_cons_of_le (Nat.not_lt.mp h)]

end Calls

/-! ## Reading back -/

/-- Whether a call asks for a value of this kind: a word is read as a word, a text as a string. -/
inductive Read.Meets : Read → Value → Prop
  | word (what : String) (value : UInt32) : Meets (.word what) (.word value)
  | string (what : String) (value : String) : Meets (.string what) (.string value)

/-- The frame that a call has written is read back by a call for its kind. -/
lemma read_frame {write : Write} (hlength : write.length < UInt32.size) {read : Read}
    (h : read.Meets write.value) (behind : List UInt8) (offset : Nat) :
    ∃ next, (⟨write.value.frame ++ behind, offset⟩ : Reader).read read
        = .ok (write.value, next) ∧ next.rest = behind := by
  cases write with
  | word value =>
    cases h with
    | word what => exact ⟨_, map_eq_ok.mpr ⟨_, readWord_word what value behind offset, rfl⟩, rfl⟩
  | count length =>
    cases h with
    | word what =>
      exact ⟨_, map_eq_ok.mpr ⟨_, readWord_word what (UInt32.ofNat length) behind offset, rfl⟩, rfl⟩
  | string value =>
    cases h with
    | string what =>
      have hframe : string value = .ok (Value.frame (.string value)) :=
        string_eq_ok.mpr ⟨hlength, rfl⟩
      exact ⟨_, map_eq_ok.mpr ⟨_, readString_string hframe what behind offset, rfl⟩, rfl⟩

/-- **Frames are read back**, and what stands behind them is left. -/
theorem readAll_frames {writes : List Write} {reads : List Read}
    (h : List.Forall₂ Read.Meets reads (Write.values writes)) (behind : List UInt8)
    (offset : Nat) :
    ∃ left, (⟨(Write.values writes).flatMap Value.frame ++ behind, offset⟩ : Reader).readAll reads
        = .ok (Write.values writes, left) ∧ left.rest = behind := by
  induction writes generalizing reads offset with
  | nil =>
    cases h
    exact ⟨_, rfl, rfl⟩
  | cons write rest ih =>
    by_cases hlength : write.length < UInt32.size
    · rw [Write.values_cons_of_lt hlength] at h ⊢
      cases h with
      | cons hfirst hrest =>
        rw [List.flatMap_cons, List.append_assoc]
        obtain ⟨next, hnext, hbehind⟩ := read_frame hlength hfirst
          ((Write.values rest).flatMap Value.frame ++ behind) offset
        obtain ⟨left, hleft, hend⟩ := ih hrest next.offset
        rw [← hbehind] at hleft
        exact ⟨left, bind_eq_ok.mpr ⟨_, hnext, bind_eq_ok.mpr ⟨_, hleft, rfl⟩⟩, hend⟩
    · rw [Write.values_cons_of_le (Nat.not_lt.mp hlength)] at h ⊢
      exact ih h offset

/-- Calls on a cursor read what they read on its rest. -/
lemma readEach_of_readAll (lost : Cursor → UInt64) {cursor : Cursor} (h : cursor.Within)
    {reads : List Read} {values : List Value} {left : Reader}
    (hread : cursor.reader.readAll reads = .ok (values, left)) :
    (readEach lost reads cursor).1 = values.map .ok ∧
      (readEach lost reads cursor).2.reader = left := by
  induction reads generalizing cursor values with
  | nil =>
    cases hread
    exact ⟨rfl, rfl⟩
  | cons read rest ih =>
    obtain ⟨⟨value, behind⟩, hfirst, hread⟩ := bind_eq_ok.mp hread
    obtain ⟨⟨others, last⟩, hrest, heq⟩ := bind_eq_ok.mp hread
    cases heq
    have hagrees := agrees_perform lost h read
    rw [hfirst] at hagrees
    obtain ⟨houtcome, rfl⟩ := hagrees.of_ok
    obtain ⟨houtcomes, hlast⟩ := ih hagrees.follows.within hrest
    rw [readEach_cons, houtcome, houtcomes]
    exact ⟨rfl, hlast⟩

/-- **Frames written are frames read.**  Take any calls on an empty writer:

* a call fails exactly if the length that it must count is no word, whatever the other calls are,
  and the next call that does adds no octets; a next call that succeeds adds a frame;
* the number of octets that is kept is the number of octets;
* calls that ask for values of the kinds that were written, in order, read back the values of the
  calls that succeeded, and the reading can be ended there;
* so do the calls on a cursor, if the octets have a size. -/
theorem written_frames_are_read_back (writes : List Write) :
    let outcomes := (writeEach writes {}).1
    let writer := (writeEach writes {}).2
    let values := Write.values writes
    outcomes = (writes.map fun write =>
        if write.length < UInt32.size then .ok () else .error ⟨write.length⟩) ∧
      (∀ write : Write, write.perform.run.run writer
        = if write.length < UInt32.size then (.ok (), writer.push write.value.frame)
          else (.error ⟨write.length⟩, writer)) ∧
      writer.written = writer.octets.length ∧
      (∀ reads, List.Forall₂ Read.Meets reads values →
        ∃ left, (⟨writer.octets, 0⟩ : Reader).readAll reads = .ok (values, left) ∧
          left.finish = .ok ()) ∧
      ∀ (lost : Cursor → UInt64) (reads : List Read), writer.octets.length < UInt64.size →
        List.Forall₂ Read.Meets reads values →
        (readEach lost reads ⟨writer.octets, 0⟩).1 = values.map .ok ∧
          (readEach lost reads ⟨writer.octets, 0⟩).2.finish = .ok () := by
  intro outcomes writer values
  have hwriter : writer = (({} : Writer).push (values.flatMap Value.frame)) :=
    snd_writeEach {} writes
  have hoctets : writer.octets = values.flatMap Value.frame := by
    rw [hwriter]
    rfl
  have hback (reads : List Read) (h : List.Forall₂ Read.Meets reads values) :
      ∃ left, (⟨writer.octets, 0⟩ : Reader).readAll reads = .ok (values, left) ∧
        left.finish = .ok () := by
    obtain ⟨left, hleft, hend⟩ := readAll_frames h [] 0
    rw [List.append_nil, ← hoctets] at hleft
    exact ⟨left, hleft, finish_eq_ok_iff.mpr hend⟩
  refine ⟨fst_writeEach {} writes, run_perform writer, ?_, hback, ?_⟩
  · rw [hwriter]
    exact Nat.zero_add _
  · intro lost reads hsize h
    have hstart : (⟨writer.octets, 0⟩ : Cursor).Within := ⟨hsize, Nat.zero_le _⟩
    obtain ⟨left, hread, hend⟩ := hback reads h
    obtain ⟨houtcomes, rfl⟩ := readEach_of_readAll lost hstart hread
    rw [finish_eq (follows_readEach lost hstart reads).within, hend]
    exact ⟨houtcomes, rfl⟩

/-- Between a word and a text, a count that no word holds leaves nothing to be read, on a reader or
on a cursor. -/
theorem a_refused_count_is_not_read_back :
    let lost : Cursor → UInt64 := fun _ => 0
    let writes : List Write := [.word 0x04030201, .count 0x100000000, .string "né", .count 5]
    let reads : List Read := [.word "version", .string "name", .word "entries"]
    let values : List Value := [.word 0x04030201, .string "né", .word 5]
    let written := writeEach writes {}
    Write.values writes = values ∧ List.Forall₂ Read.Meets reads values ∧
      written.1 = [.ok (), .error ⟨0x100000000⟩, .ok (), .ok ()] ∧
      written.2 = ⟨[1, 2, 3, 4, 3, 0, 0, 0, 0x6E, 0xC3, 0xA9, 5, 0, 0, 0], 15⟩ ∧
      (∃ left, (⟨written.2.octets, 0⟩ : Reader).readAll reads = .ok (values, left) ∧
        left.finish = .ok ()) ∧
      written.2.octets.length < UInt64.size ∧
      (readEach lost reads ⟨written.2.octets, 0⟩).1 = values.map .ok := by
  intro lost writes reads values written
  have hvalues : Write.values writes = values := by decide +kernel
  have hmeets : List.Forall₂ Read.Meets reads values :=
    .cons (.word _ _) (.cons (.string _ _) (.cons (.word _ _) .nil))
  have hwriter : written.2 = ⟨[1, 2, 3, 4, 3, 0, 0, 0, 0x6E, 0xC3, 0xA9, 5, 0, 0, 0], 15⟩ := by
    decide +kernel
  have hsize : written.2.octets.length < UInt64.size := by rw [hwriter]; decide
  obtain ⟨houtcomes, -, -, hreader, hcursor⟩ := written_frames_are_read_back writes
  rw [hvalues] at hreader hcursor
  exact ⟨hvalues, hmeets, houtcomes, hwriter, hreader reads hmeets, hsize,
    (hcursor lost reads hsize hmeets).1⟩

end Retrieval.Frame

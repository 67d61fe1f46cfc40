import Mathlib.Tactic.Common
import Retrieval.Error
import Retrieval.Frame.Input
import Retrieval.Proofs.Fault
import Retrieval.Proofs.Frame.Reading

/-!
# Reads are bounded by what is there

A cursor counts in numbers of 64 bits, and a reader does not count at all but keeps the octets that
are left.  As long as the octets have a size of 64 bits at all and the position is within them
(`Cursor.Within`), a call on the cursor comes to the same as the call on the reader of its rest
(`Agrees`): its sums do not run over, its product is too large for a size only if it is too large
for the octets that are left, and it asks for no octets that are not there, so the error of octets
that end is met nowhere.  A failed call leaves the cursor somewhere within the octets, and the calls
after it are as good as before.

What a call on a reader takes is told by the octets alone (`Read.Takes`).
-/

namespace Retrieval.Frame

/-! ## Cursors within their octets -/

namespace Cursor

/-- What is left, as a reader. -/
def reader (cursor : Cursor) : Reader :=
  ⟨cursor.rest, cursor.position.toNat⟩

/-- Whether the octets have a size, and the position does not go beyond them. -/
structure Within (cursor : Cursor) : Prop where
  size : cursor.octets.length < UInt64.size
  position : cursor.position.toNat ≤ cursor.octets.length

variable {cursor : Cursor}

lemma length_rest (h : cursor.Within) :
    cursor.position.toNat + cursor.rest.length = cursor.octets.length := by
  have hposition := h.position
  rw [rest, List.length_drop]
  omega

lemma toNat_remaining (h : cursor.Within) : cursor.remaining.toNat = cursor.rest.length := by
  have hlength := length_rest h
  have hsize : cursor.size.toNat = cursor.octets.length :=
    UInt64.toNat_ofNat_of_lt' h.size
  rw [remaining]
  split
  · rename_i hend
    rw [UInt64.le_iff_toNat_le, hsize] at hend
    change 0 = _
    omega
  · rename_i hleft
    rw [UInt64.le_iff_toNat_le, hsize] at hleft
    rw [UInt64.toNat_sub_of_le _ _ (UInt64.le_iff_toNat_le.mpr (by omega)), hsize]
    omega

variable {n : UInt64}

lemma toNat_position_moved (h : cursor.Within) (hn : n.toNat ≤ cursor.rest.length) :
    (cursor.moved n).position.toNat = cursor.position.toNat + n.toNat := by
  have hlength := length_rest h
  have hsize := h.size
  rw [moved, UInt64.toNat_add]
  exact Nat.mod_eq_of_lt (by change _ < UInt64.size; omega)

lemma rest_moved (h : cursor.Within) (hn : n.toNat ≤ cursor.rest.length) :
    (cursor.moved n).rest = cursor.rest.drop n.toNat := by
  rw [rest, toNat_position_moved h hn, ← List.drop_drop]
  rfl

lemma within_moved (h : cursor.Within) (hn : n.toNat ≤ cursor.rest.length) :
    (cursor.moved n).Within where
  size := h.size
  position := by
    have hlength := length_rest h
    rw [toNat_position_moved h hn]
    change _ ≤ cursor.octets.length
    omega

lemma reader_moved (h : cursor.Within) (hn : n.toNat ≤ cursor.rest.length) :
    (cursor.moved n).reader = cursor.reader.advance n.toNat := by
  rw [reader, rest_moved h hn, toNat_position_moved h hn]
  rfl

/-- Whether a cursor is one from which calls on another have gone on: it is within the same octets,
and behind it is no more than was behind the other. -/
structure Follows (cursor next : Cursor) : Prop where
  octets : next.octets = cursor.octets
  within : next.Within
  rest : next.rest <:+ cursor.rest

lemma Follows.refl (h : cursor.Within) : cursor.Follows cursor :=
  ⟨rfl, h, List.suffix_rfl⟩

lemma Follows.trans {next later : Cursor} (h : cursor.Follows next) (hlater : next.Follows later) :
    cursor.Follows later :=
  ⟨hlater.octets.trans h.octets, hlater.within, hlater.rest.trans h.rest⟩

lemma follows_moved (h : cursor.Within) (hn : n.toNat ≤ cursor.rest.length) :
    cursor.Follows (cursor.moved n) where
  octets := rfl
  within := within_moved h hn
  rest := by
    rw [rest_moved h hn]
    exact List.drop_suffix n.toNat cursor.rest

end Cursor

/-! ## Steps of a call -/

namespace Input

variable {cursor : Cursor} {n : UInt64}

lemma run_advance (h : cursor.Within) (hn : n.toNat ≤ cursor.rest.length) :
    (advance n).run.run cursor = (.ok (), cursor.moved n) := by
  have hlength := Cursor.length_rest h
  have hsize := h.size
  rw [advance, run_get_bind, if_pos (by omega)]
  rfl

/-- Octets that are left are taken. -/
lemma run_exactly_of_le (lost : Cursor → UInt64) (h : cursor.Within)
    (hn : n.toNat ≤ cursor.rest.length) :
    (exactly lost n).run.run cursor = (.ok (cursor.rest.take n.toNat), cursor.moved n) := by
  have hleft : ¬ cursor.remaining < n := by
    rw [UInt64.lt_iff_toNat_lt, Cursor.toNat_remaining h]
    omega
  rw [exactly, run_get_bind, if_neg hleft, run_bind_of_ok (run_advance h hn)]
  rfl

/-- Octets that are not left are not taken, but some of those that are may be. -/
lemma run_exactly_of_lt (lost : Cursor → UInt64) (h : cursor.Within)
    (hn : cursor.rest.length < n.toNat) :
    ∃ next, cursor.Follows next ∧
      (exactly lost n).run.run cursor = (.error (.error .ended), next) := by
  have hleft : cursor.remaining < n := by
    rw [UInt64.lt_iff_toNat_lt, Cursor.toNat_remaining h]
    exact hn
  have htaken : (min (lost cursor) cursor.remaining).toNat ≤ cursor.rest.length := by
    rw [UInt64.toNat_min, Cursor.toNat_remaining h]
    exact Nat.min_le_right _ _
  refine ⟨_, Cursor.follows_moved h htaken, ?_⟩
  rw [exactly, run_get_bind, if_pos hleft, run_bind_of_ok (run_advance h htaken)]
  rfl

end Input

/-! ## Calls on a cursor and on its rest -/

/-- Whether a call on a cursor comes to what it comes to on a reader: it reads the same, and the
cursor is then at the reader behind it; or it reports the same error, and the cursor is somewhere. -/
inductive Agrees {α : Type} (cursor : Cursor) :
    Except (Failure InputError) α × Cursor → Except ReadError (α × Reader) → Prop
  | ok {next : Cursor} (value : α) (h : cursor.Follows next) :
      Agrees cursor (.ok value, next) (.ok (value, next.reader))
  | error {next : Cursor} (reason : ReadError) (h : cursor.Follows next) :
      Agrees cursor (.error (.error (.frame reason)), next) (.error reason)

namespace Agrees

variable {α β : Type} {cursor : Cursor}

lemma of_follows {next : Cursor} (h : cursor.Follows next)
    {result : Except (Failure InputError) α × Cursor} {expected : Except ReadError (α × Reader)}
    (hagrees : Agrees next result expected) : Agrees cursor result expected := by
  cases hagrees with
  | ok value hnext => exact .ok value (h.trans hnext)
  | error reason hnext => exact .error reason (h.trans hnext)

/-- Sequences of two steps agree if their steps do. -/
lemma bind {first : Input α} {expected : Except ReadError (α × Reader)}
    (h : Agrees cursor (first.run.run cursor) expected) {next : α → Input β}
    {then' : α × Reader → Except ReadError (β × Reader)}
    (hnext : ∀ value later, cursor.Follows later →
      Agrees later ((next value).run.run later) (then' (value, later.reader))) :
    Agrees cursor ((first >>= next).run.run cursor) (expected >>= then') := by
  generalize hfirst : first.run.run cursor = result at h
  cases h with
  | ok value hlater =>
    rw [run_bind_of_ok hfirst, ok_bind]
    exact (hnext value _ hlater).of_follows hlater
  | error reason hlater =>
    rw [run_bind_of_error hfirst, error_bind]
    exact .error reason hlater

lemma map {first : Input α} {expected : Except ReadError (α × Reader)}
    (h : Agrees cursor (first.run.run cursor) expected) (f : α → β) :
    Agrees cursor ((f <$> first).run.run cursor) (expected.map (Prod.map f id)) := by
  rw [run_map]
  generalize first.run.run cursor = result at h ⊢
  cases h with
  | ok value hlater => exact .ok (f value) hlater
  | error reason hlater => exact .error reason hlater

variable {result : Except (Failure InputError) α × Cursor}
  {expected : Except ReadError (α × Reader)}

lemma follows (h : Agrees cursor result expected) : cursor.Follows result.2 := by
  cases h with
  | ok value hnext => exact hnext
  | error reason hnext => exact hnext

lemma fst_eq (h : Agrees cursor result expected) :
    result.1 = (expected.map Prod.fst).mapError fun reason => .error (.frame reason) := by
  cases h with
  | ok value hnext => rfl
  | error reason hnext => rfl

/-- What is read on the reader is read on the cursor, which is then at the reader behind it. -/
lemma of_ok {value : α} {left : Reader} (h : Agrees cursor result (.ok (value, left))) :
    result.1 = .ok value ∧ result.2.reader = left := by
  cases h with
  | ok value hnext => exact ⟨rfl, rfl⟩

/-- Both read the same, and leave the same behind it. -/
lemma exists_ok_iff (h : Agrees cursor result expected) {value : α} {behind : List UInt8} :
    (∃ next, result = (.ok value, next) ∧ next.rest = behind) ↔
      ∃ left, expected = .ok (value, left) ∧ left.rest = behind := by
  constructor
  · rintro ⟨next, rfl, rfl⟩
    cases h with
    | ok value hnext => exact ⟨next.reader, rfl, rfl⟩
  · rintro ⟨left, rfl, rfl⟩
    obtain ⟨hvalue, hleft⟩ := h.of_ok
    exact ⟨result.2, Prod.ext hvalue rfl, congrArg Reader.rest hleft⟩

end Agrees

namespace Input

variable {cursor : Cursor} (lost : Cursor → UInt64)

/-- Four octets weigh the word that they write. -/
lemma weigh_four (a b c d : UInt8) :
    weigh [a, b, c, d]
      = a.toNat + b.toNat * 0x100 + c.toNat * 0x10000 + d.toNat * 0x1000000 := by
  simp only [weigh, List.foldr_cons, List.foldr_nil]
  omega

/-- **A word on a cursor** is a word on its rest. -/
lemma agrees_word (h : cursor.Within) (what : String) :
    Agrees cursor ((word lost what).run.run cursor) (cursor.reader.readWord what) := by
  rw [word, run_get_bind, Reader.readWord]
  split
  · rename_i a b c d behind hrest
    have hrest' : cursor.rest = a :: b :: c :: d :: behind := hrest
    have hfour : (4 : UInt64).toNat ≤ cursor.rest.length := by
      rw [hrest']
      exact Nat.le_add_left 4 behind.length
    have htaken := run_exactly_of_le lost h hfour
    rw [run_bind_of_ok (run_tryCatch_of_ok htaken), hrest']
    have hnumber : weigh ((a :: b :: c :: d :: behind).take (4 : UInt64).toNat)
        = a.toNat + b.toNat * 0x100 + c.toNat * 0x10000 + d.toNat * 0x1000000 :=
      weigh_four a b c d
    have hmoved : cursor.reader.advance 4 = (cursor.moved 4).reader :=
      (Cursor.reader_moved h hfour).symm
    rw [hnumber, hmoved]
    exact .ok _ (Cursor.follows_moved h hfour)
  · rename_i hshort
    have hlt : cursor.rest.length < (4 : UInt64).toNat := by
      rcases hrest : cursor.rest with _ | ⟨a, _ | ⟨b, _ | ⟨c, _ | ⟨d, behind⟩⟩⟩⟩
      case cons.cons.cons.cons => exact (hshort a b c d behind hrest).elim
      all_goals simp
    obtain ⟨next, hnext, hended⟩ := run_exactly_of_lt lost h hlt
    rw [run_bind_of_error (run_tryCatch_of_error hended)]
    exact .error _ hnext

/-- The saturating product is exact below the greatest size. -/
lemma toNat_saturatingMul (a b : UInt64) :
    (saturatingMul a b).toNat = min (a.toNat * b.toNat) Reader.sizeLimit := by
  rw [saturatingMul, Reader.sizeLimit]
  split
  · rename_i hlt
    rw [UInt64.toNat_mul, Nat.min_eq_left (by omega)]
    exact Nat.mod_eq_of_lt hlt
  · rename_i hle
    rw [Nat.min_eq_right (by omega)]
    exact UInt64.toNat_ofNat_of_lt' (by decide)

/-- **A count on a cursor** is a count on its rest: the product is too large for a size only where it
is too large for what is left. -/
lemma agrees_count (h : cursor.Within) (what : String) (least : UInt64) :
    Agrees cursor ((count lost what least).run.run cursor)
      (cursor.reader.readCount what least.toNat) := by
  rw [count, Reader.readCount]
  refine (agrees_word lost h what).bind fun number later hlater => ?_
  have hleft := Cursor.toNat_remaining hlater.within
  have hneeded := toNat_saturatingMul number.toUInt64 least
  rw [UInt32.toNat_toUInt64] at hneeded
  have hreader : later.reader.remaining = later.rest.length := rfl
  rw [run_get_bind]
  dsimp only
  rw [← hneeded, hreader, ← hleft]
  by_cases hlt : later.remaining < saturatingMul number.toUInt64 least
  · rw [if_pos hlt, if_pos (UInt64.lt_iff_toNat_lt.mp hlt)]
    exact .error _ (.refl hlater.within)
  · rw [if_neg hlt, if_neg fun hnat => hlt (UInt64.lt_iff_toNat_lt.mpr hnat)]
    exact .ok _ (.refl hlater.within)

/-- **A string on a cursor** is a string on its rest: it asks for no octets that are not left. -/
lemma agrees_string (h : cursor.Within) (what : String) :
    Agrees cursor ((string lost what).run.run cursor) (cursor.reader.readString what) := by
  rw [string, Reader.readString]
  refine (agrees_word lost h what).bind fun length later hlater => ?_
  have hleft := Cursor.toNat_remaining hlater.within
  have hlength : length.toUInt64.toNat = length.toNat := UInt32.toNat_toUInt64 length
  have hreader : later.reader.remaining = later.rest.length := rfl
  rw [run_get_bind]
  dsimp only
  rw [hreader, ← hleft]
  by_cases hlt : later.remaining < length.toUInt64
  · rw [if_pos hlt, if_pos (hlength ▸ UInt64.lt_iff_toNat_lt.mp hlt)]
    exact .error _ (.refl hlater.within)
  · have hle : length.toUInt64.toNat ≤ later.rest.length := by
      rw [UInt64.lt_iff_toNat_lt] at hlt
      omega
    have hmoved : later.reader.advance length.toNat = (later.moved length.toUInt64).reader := by
      rw [Cursor.reader_moved hlater.within hle, hlength]
    have hnext := Cursor.follows_moved hlater.within hle
    rw [if_neg hlt, if_neg (by omega), run_bind_of_ok (run_exactly_of_le lost hlater.within hle),
      hlength, hmoved]
    have hbehind : later.reader.rest = later.rest := rfl
    rw [hbehind]
    cases Utf8.decode (later.rest.take length.toNat) with
    | ok text => exact .ok _ hnext
    | error reason => exact .error _ hnext

end Input

/-- **A call on a cursor** is a call on its rest. -/
theorem agrees_perform (lost : Cursor → UInt64) {cursor : Cursor} (h : cursor.Within)
    (read : Read) :
    Agrees cursor ((read.perform lost).run.run cursor) (cursor.reader.read read) := by
  cases read with
  | word what => exact (Input.agrees_word lost h what).map Value.word
  | count what least => exact (Input.agrees_count lost h what least).map Value.count
  | string what => exact (Input.agrees_string lost h what).map Value.string

lemma finish_eq_ok_iff {reader : Reader} : reader.finish = .ok () ↔ reader.rest = [] := by
  rw [Reader.finish]
  cases reader.rest <;> simp

/-- The end of the reading on a cursor is the end of the reading of its rest. -/
lemma finish_eq {cursor : Cursor} (h : cursor.Within) :
    cursor.finish = cursor.reader.finish.mapError fun reason => .error (.frame reason) := by
  have hleft := Cursor.toNat_remaining h
  have hreader : cursor.reader.rest = cursor.rest := rfl
  rw [Cursor.finish, Reader.finish, Reader.remaining, hreader, hleft]
  by_cases hempty : cursor.rest = []
  · have hzero : cursor.remaining = 0 := UInt64.toNat_inj.mp (by rw [hleft, hempty]; rfl)
    rw [if_pos hzero, hempty]
    rfl
  · have hmore : cursor.remaining ≠ 0 := fun hzero => hempty <| by
      rw [hzero] at hleft
      exact List.length_eq_zero_iff.mp hleft.symm
    rw [if_neg hmore, if_neg (by simpa using hempty)]
    rfl

/-! ## What a call takes -/

/-- What a call may read of octets, and what it leaves of them. -/
inductive Read.Takes : Read → List UInt8 → Value → List UInt8 → Prop
  /-- Four octets are a word. -/
  | word (what : String) (number : UInt32) (behind : List UInt8) :
      Takes (.word what) (Frame.word number ++ behind) (.word number) behind
  /-- A word is a count if the octets behind it are enough for that many records. -/
  | count (what : String) {least : UInt64} {number : UInt32} {behind : List UInt8}
      (h : number.toNat * least.toNat ≤ behind.length) :
      Takes (.count what least) (Frame.word number ++ behind) (.count number.toNat) behind
  /-- A word and as many octets as it counts are a string if they are UTF-8. -/
  | string (what : String) {length : UInt32} {text : String} (behind : List UInt8)
      (h : (Utf8.encode text.toList).length = length.toNat) :
      Takes (.string what) (Frame.word length ++ Utf8.encode text.toList ++ behind)
        (.string text) behind

/-- The octets that a value was read from. -/
def Value.frame : Value → List UInt8
  | word value => Frame.word value
  | count number => Frame.word (UInt32.ofNat number)
  | string value =>
    let octets := Utf8.encode value.toList
    Frame.word (UInt32.ofNat octets.length) ++ octets

/-- What is taken stands in front of what is left. -/
lemma Read.Takes.eq_append {read : Read} {octets behind : List UInt8} {value : Value}
    (h : read.Takes octets value behind) : octets = value.frame ++ behind := by
  cases h with
  | word what number => rfl
  | count what hleast => rw [Value.frame, UInt32.ofNat_toNat]
  | string what behind hlength => rw [Value.frame, hlength, UInt32.ofNat_toNat]

/-- A count that was read is no more than what is left has room for, computed exactly. -/
lemma mul_le_of_readCount {reader left : Reader} {what : String} {least number : Nat}
    (hsize : reader.rest.length < UInt64.size)
    (h : reader.readCount what least = .ok (number, left)) : number * least ≤ left.rest.length := by
  obtain ⟨-, hrest⟩ := rest_eq_of_readCount h
  have hlength : reader.rest.length = 4 + left.rest.length := by
    rw [hrest, List.length_append, length_word]
  unfold Reader.readCount at h
  obtain ⟨⟨value, behind⟩, -, h⟩ := bind_eq_ok.mp h
  dsimp only at h
  split at h
  · cases h
  · rename_i hneeded
    cases h
    -- what is left is too short for the greatest size, so the product was not cut
    have hlimit : left.remaining < Reader.sizeLimit := by
      have hremaining : left.remaining = left.rest.length := rfl
      rw [Reader.sizeLimit]
      omega
    change _ ≤ left.remaining
    omega

/-- **A call on a reader reads exactly what it may take.** -/
theorem exists_read_iff {reader : Reader} (h : reader.rest.length < UInt64.size) {read : Read}
    {value : Value} {behind : List UInt8} :
    (∃ left, reader.read read = .ok (value, left) ∧ left.rest = behind) ↔
      read.Takes reader.rest value behind := by
  constructor
  · rintro ⟨left, hread, rfl⟩
    cases read with
    | word what =>
      obtain ⟨⟨number, other⟩, hword, heq⟩ := map_eq_ok.mp hread
      cases heq
      rw [rest_eq_of_readWord hword]
      exact .word what number other.rest
    | count what least =>
      obtain ⟨⟨number, other⟩, hcount, heq⟩ := map_eq_ok.mp hread
      cases heq
      obtain ⟨hnumber, hrest⟩ := rest_eq_of_readCount hcount
      have hroom := mul_le_of_readCount h hcount
      have hback : (UInt32.ofNat number).toNat = number := UInt32.toNat_ofNat_of_lt' hnumber
      have htakes : Read.Takes (.count what least) (Frame.word (UInt32.ofNat number) ++ other.rest)
          (.count (UInt32.ofNat number).toNat) other.rest := .count what (by rwa [hback])
      rw [hback] at htakes
      rw [hrest]
      exact htakes
    | string what =>
      obtain ⟨⟨text, other⟩, hstring, heq⟩ := map_eq_ok.mp hread
      cases heq
      obtain ⟨octets, hframe, hrest⟩ := rest_eq_of_readString hstring
      obtain ⟨hlength, rfl⟩ := string_eq_ok.mp hframe
      rw [hrest]
      exact .string what other.rest (UInt32.toNat_ofNat_of_lt' hlength).symm
  · obtain ⟨rest, offset⟩ := reader
    intro htakes
    cases htakes with
    | word what number =>
      exact ⟨_, map_eq_ok.mpr ⟨_, readWord_word what number behind offset, rfl⟩, rfl⟩
    | count what hroom =>
      rename_i least number
      have hread := readCount_word number.toNat_lt hroom what offset
      rw [UInt32.ofNat_toNat] at hread
      exact ⟨_, map_eq_ok.mpr ⟨_, hread, rfl⟩, rfl⟩
    | string what _ hlength =>
      rename_i length text
      have hframe : string text = .ok (word length ++ Utf8.encode text.toList) := by
        rw [string_eq_ok, hlength, UInt32.ofNat_toNat]
        exact ⟨length.toNat_lt, rfl⟩
      exact ⟨_, map_eq_ok.mpr ⟨_, readString_string hframe what behind offset, rfl⟩, rfl⟩

/-! ## What calls come to -/

section Calls

variable (lost : Cursor → UInt64) {cursor : Cursor}

lemma follows_perform (h : cursor.Within) (read : Read) :
    cursor.Follows ((read.perform lost).run.run cursor).2 :=
  (agrees_perform lost h read).follows

/-- **A call on a cursor reads exactly what it may take.** -/
theorem exists_perform_iff (h : cursor.Within) {read : Read} {value : Value}
    {behind : List UInt8} :
    (∃ next, (read.perform lost).run.run cursor = (.ok value, next) ∧ next.rest = behind) ↔
      read.Takes cursor.rest value behind := by
  have hsize : cursor.reader.rest.length < UInt64.size := by
    have hlength := Cursor.length_rest h
    have hwhole := h.size
    change cursor.rest.length < UInt64.size
    omega
  exact (agrees_perform lost h read).exists_ok_iff.trans (exists_read_iff hsize)

lemma readEach_cons (read : Read) (rest : List Read) (cursor : Cursor) :
    readEach lost (read :: rest) cursor
      = (((read.perform lost).run.run cursor).1
            :: (readEach lost rest ((read.perform lost).run.run cursor).2).1,
          (readEach lost rest ((read.perform lost).run.run cursor).2).2) := rfl

lemma follows_readEach (h : cursor.Within) (reads : List Read) :
    cursor.Follows (readEach lost reads cursor).2 := by
  induction reads generalizing cursor with
  | nil => exact .refl h
  | cons read rest ih =>
    have hnext := follows_perform lost h read
    exact hnext.trans (ih hnext.within)

/-- Every failure is that a frame is not there. -/
lemma eq_frame_of_mem_readEach (h : cursor.Within) {reads : List Read}
    {failure : Failure InputError} (hfailure : .error failure ∈ (readEach lost reads cursor).1) :
    ∃ reason, failure = .error (.frame reason) := by
  induction reads generalizing cursor with
  | nil => cases hfailure
  | cons read rest ih =>
    rw [readEach_cons] at hfailure
    rcases List.mem_cons.mp hfailure with hfirst | hrest
    · rw [(agrees_perform lost h read).fst_eq] at hfirst
      cases hread : cursor.reader.read read with
      | ok found =>
        rw [hread] at hfirst
        cases hfirst
      | error reason =>
        rw [hread] at hfirst
        cases hfirst
        exact ⟨reason, rfl⟩
    · exact ih (follows_perform lost h read).within hrest

/-- What successful calls have read stands in front of what is left. -/
lemma rest_eq_of_readEach (h : cursor.Within) {reads : List Read} {values : List Value}
    (hvalues : (readEach lost reads cursor).1 = values.map .ok) :
    cursor.rest = values.flatMap Value.frame ++ (readEach lost reads cursor).2.rest := by
  induction reads generalizing cursor values with
  | nil =>
    cases values with
    | nil => rfl
    | cons value others => cases hvalues
  | cons read rest ih =>
    cases values with
    | nil => cases hvalues
    | cons value others =>
      rw [readEach_cons] at hvalues
      obtain ⟨hfirst, hrest⟩ := List.cons.inj hvalues
      have htakes := (exists_perform_iff lost h).mp ⟨_, Prod.ext hfirst rfl, rfl⟩
      rw [htakes.eq_append, ih (follows_perform lost h read).within hrest, List.flatMap_cons,
        List.append_assoc]
      rfl

end Calls

/-- **Reads take exactly what is there.**  Take octets whose number is a size, and any calls on a
cursor over them, failed ones among them:

* no call stops, and every error is that a frame is not there, which is a decode error; that the
  octets end within those that were asked for is never reported;
* if all calls succeed, the octets are what was read and, behind it, what is left;
* how many octets are left is computed as it is;
* the next call succeeds exactly if what it reads is there: a word, for a count with octets behind
  it for so many records, the product being the exact one, for a string with so many octets behind
  it that are UTF-8; and it leaves what is behind;
* the reading can be ended exactly if nothing is left, and otherwise there is a decode error;
* the next call comes to what it comes to on the reader of what is left. -/
theorem reads_take_exactly_what_is_there (lost : Cursor → UInt64) {octets : List UInt8}
    (h : octets.length < UInt64.size) (reads : List Read) :
    let outcomes := (readEach lost reads ⟨octets, 0⟩).1
    let cursor := (readEach lost reads ⟨octets, 0⟩).2
    (∀ failure, .error failure ∈ outcomes →
        ∃ reason, failure = .error (.frame reason) ∧ (Error.read reason).kind = .decode) ∧
      (∀ values : List Value, outcomes = values.map .ok →
        octets = values.flatMap Value.frame ++ cursor.rest) ∧
      cursor.remaining.toNat = cursor.rest.length ∧
      (∀ (read : Read) (value : Value) (behind : List UInt8),
        (∃ next, (read.perform lost).run.run cursor = (.ok value, next) ∧ next.rest = behind) ↔
          read.Takes cursor.rest value behind) ∧
      (cursor.finish = .ok () ↔ cursor.rest = []) ∧
      (∀ failure, cursor.finish = .error failure →
        ∃ reason, failure = .error (.frame reason) ∧ (Error.read reason).kind = .decode) ∧
      ∀ read : Read, ((read.perform lost).run.run cursor).1
        = ((cursor.reader.read read).map Prod.fst).mapError
            fun reason => .error (.frame reason) := by
  intro outcomes cursor
  have hstart : (⟨octets, 0⟩ : Cursor).Within := ⟨h, Nat.zero_le _⟩
  have hcursor : cursor.Within := (follows_readEach lost hstart reads).within
  refine ⟨?_, fun values hvalues => rest_eq_of_readEach lost hstart hvalues,
    Cursor.toNat_remaining hcursor, fun read value behind => exists_perform_iff lost hcursor, ?_, ?_,
    fun read => (agrees_perform lost hcursor read).fst_eq⟩
  · intro failure hfailure
    obtain ⟨reason, hreason⟩ := eq_frame_of_mem_readEach lost hstart hfailure
    exact ⟨reason, hreason, rfl⟩
  · rw [finish_eq hcursor, mapError_eq_ok, finish_eq_ok_iff]
    rfl
  · intro failure hfailure
    rw [finish_eq hcursor] at hfailure
    obtain ⟨reason, -, hreason⟩ := mapError_eq_error.mp hfailure
    exact ⟨reason, hreason.symm, rfl⟩

/-- Of a string, a count and two octets, three calls read the string, refuse a count whose product
with the greatest size is no size, and miss a word; after that, nothing is left that could be read
again, and the reading cannot be ended before the octets are. -/
theorem reads_go_on_behind_refused_frames :
    let lost : Cursor → UInt64 := fun _ => 1
    let octets := word 3 ++ [0x61, 0x62, 0x63] ++ word 0xFFFFFFFF ++ [1, 2]
    let reads : List Read := [.string "name", .count "entries" 0xFFFFFFFFFFFFFFFF, .word "id"]
    octets.length < UInt64.size ∧
      readEach lost reads ⟨octets, 0⟩
        = ([.ok (.string "abc"),
            .error (.error (.frame (.tooMany "entries" 0xFFFFFFFF 0xFFFFFFFFFFFFFFFF 2))),
            .error (.error (.frame (.truncated "id" 11)))], ⟨octets, 12⟩) ∧
      (∀ failure, .error failure ∈ (readEach lost reads ⟨octets, 0⟩).1 →
        ∃ reason, failure = .error (.frame reason)) ∧
      (readEach lost reads ⟨octets, 0⟩).2.finish ≠ .ok () := by
  intro lost octets reads
  have hsize : octets.length < UInt64.size := by decide
  obtain ⟨herrors, -, -, -, hfinish, -, -⟩ := reads_take_exactly_what_is_there lost hsize reads
  refine ⟨hsize, by decide +kernel, fun failure hfailure => ?_, fun hend => ?_⟩
  · obtain ⟨reason, hreason, -⟩ := herrors failure hfailure
    exact ⟨reason, hreason⟩
  · exact absurd (hfinish.mp hend) (by decide +kernel)

end Retrieval.Frame

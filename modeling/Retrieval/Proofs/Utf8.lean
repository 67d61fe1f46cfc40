import Mathlib.Tactic.Common
import Retrieval.Proofs.Fault
import Retrieval.Utf8

/-!
# UTF-8 is read back, and nothing else

The decoder takes one octet at a time and holds the bits of a character until its last octet comes.
Reading the octets of a character therefore goes through the leading parts of its number: behind the
first octet the decoder holds the highest bits, and each further octet appends six more
(`feed_tail`).  At the end it holds the number itself, and the bounds that the first octet puts on
the second one are met because a character has no shorter form and is no surrogate.

So the octets of a text are decoded to that text (`decode_encode`), and no text fails.  The bounds
of the second octet are also what makes the decoder strict: they leave out just the numbers that
have a shorter form or are no character.  What the decoder holds of a pending character therefore
says which octets it came from (`Pending.Follows`), every octet keeps that so (`Front.follows`), and
octets are decoded to a text only if they are the octets of that text (`decode_eq_ok`).

Octets that are cut off within a character are refused, so a part of the octets that is read at all
is read as a part of the text (`decode_append`).  An octet below 128 is a character by itself, also
at the end: the octets of other characters end in greater ones (`decode_append_ascii`).
-/

namespace Retrieval.Utf8

/-! ## Steps of the decoder -/

lemma decodeFrom_scalar {index : Nat} {octet : UInt8} {c : Char} (h : opening octet = .scalar c)
    (rest : List UInt8) :
    decodeFrom index none (octet :: rest) = (decodeFrom (index + 1) none rest).map (c :: ·) := by
  simp only [decodeFrom, h, Nat.add_zero]

lemma decodeFrom_lead {index : Nat} {octet : UInt8} {pending : Pending}
    (h : opening octet = .lead pending) (rest : List UInt8) :
    decodeFrom index none (octet :: rest) = decodeFrom index (some pending) rest := by
  simp only [decodeFrom, h]

lemma decodeFrom_feed_scalar {index : Nat} {octet : UInt8} {pending : Pending} {c : Char}
    (h : pending.feed octet = .scalar c) (rest : List UInt8) :
    decodeFrom index (some pending) (octet :: rest)
      = (decodeFrom (index + pending.taken + 1) none rest).map (c :: ·) := by
  simp only [decodeFrom, h]

lemma decodeFrom_feed_lead {index : Nat} {octet : UInt8} {pending next : Pending}
    (h : pending.feed octet = .lead next) (rest : List UInt8) :
    decodeFrom index (some pending) (octet :: rest) = decodeFrom index (some next) rest := by
  simp only [decodeFrom, h]

/-! ## Octets of a character -/

/-- An octet that carries the six lowest bits of a number. -/
def tail (bits : Nat) : UInt8 :=
  UInt8.ofNat (0x80 + bits % 0x40)

/-- Behind the higher bits of a number an octet with its lowest ones gives the number. -/
lemma feed_tail {missing low high taken bits : Nat} (hlow : low ≤ 0x80 + bits % 0x40)
    (hhigh : 0x80 + bits % 0x40 ≤ high) :
    (⟨missing, low, high, bits / 0x40, taken⟩ : Pending).feed (tail bits)
      = if missing ≤ 1 then .scalar (Char.ofNat bits)
        else .lead ⟨missing - 1, 0x80, 0xBF, bits, taken + 1⟩ := by
  have hoctet : (tail bits).toNat = 0x80 + bits % 0x40 :=
    UInt8.toNat_ofNat_of_lt' (by change _ < 256; omega)
  have hbits : bits / 0x40 * 0x40 + (0x80 + bits % 0x40 - 0x80) = bits := by omega
  simp only [Pending.feed, hoctet, hbits]
  rw [if_neg (by omega)]

lemma feed_last {low high taken bits : Nat} (hlow : low ≤ 0x80 + bits % 0x40)
    (hhigh : 0x80 + bits % 0x40 ≤ high) :
    (⟨1, low, high, bits / 0x40, taken⟩ : Pending).feed (tail bits)
      = .scalar (Char.ofNat bits) := by
  rw [feed_tail hlow hhigh, if_pos (Nat.le_refl 1)]

lemma feed_next {missing low high taken bits : Nat} (hlow : low ≤ 0x80 + bits % 0x40)
    (hhigh : 0x80 + bits % 0x40 ≤ high) :
    (⟨missing + 2, low, high, bits / 0x40, taken⟩ : Pending).feed (tail bits)
      = .lead ⟨missing + 1, 0x80, 0xBF, bits, taken + 1⟩ := by
  rw [feed_tail hlow hhigh, if_neg (by omega)]
  rfl

lemma opening_ascii {n : Nat} (h : n < 0x80) :
    opening (UInt8.ofNat n) = .scalar (Char.ofNat n) := by
  have hoctet : (UInt8.ofNat n).toNat = n := UInt8.toNat_ofNat_of_lt' (by change _ < 256; omega)
  simp only [opening, hoctet]
  rw [if_pos h]

lemma opening_two {high : Nat} (hlow : 2 ≤ high) (hhigh : high < 0x20) :
    opening (UInt8.ofNat (0xC0 + high)) = .lead ⟨1, 0x80, 0xBF, high, 1⟩ := by
  have hoctet : (UInt8.ofNat (0xC0 + high)).toNat = 0xC0 + high :=
    UInt8.toNat_ofNat_of_lt' (by change _ < 256; omega)
  simp only [opening, hoctet]
  rw [if_neg (by omega), if_neg (by omega), if_pos (by omega), Nat.add_sub_cancel_left]

lemma opening_three {high : Nat} (hhigh : high < 0x10) :
    opening (UInt8.ofNat (0xE0 + high))
      = .lead ⟨2, if high = 0 then 0xA0 else 0x80, if high = 0xD then 0x9F else 0xBF, high, 1⟩ := by
  have hoctet : (UInt8.ofNat (0xE0 + high)).toNat = 0xE0 + high :=
    UInt8.toNat_ofNat_of_lt' (by change _ < 256; omega)
  have hzero : (0xE0 + high = 0xE0) = (high = 0) := propext ⟨fun h => by omega, fun h => by omega⟩
  have hsurrogate : (0xE0 + high = 0xED) = (high = 0xD) :=
    propext ⟨fun h => by omega, fun h => by omega⟩
  simp only [opening, hoctet, hzero, hsurrogate]
  rw [if_neg (by omega), if_neg (by omega), if_neg (by omega), if_pos (by omega),
    Nat.add_sub_cancel_left]

lemma opening_four {high : Nat} (hhigh : high < 5) :
    opening (UInt8.ofNat (0xF0 + high))
      = .lead ⟨3, if high = 0 then 0x90 else 0x80, if high = 4 then 0x8F else 0xBF, high, 1⟩ := by
  have hoctet : (UInt8.ofNat (0xF0 + high)).toNat = 0xF0 + high :=
    UInt8.toNat_ofNat_of_lt' (by change _ < 256; omega)
  have hzero : (0xF0 + high = 0xF0) = (high = 0) := propext ⟨fun h => by omega, fun h => by omega⟩
  have hlast : (0xF0 + high = 0xF4) = (high = 4) := propext ⟨fun h => by omega, fun h => by omega⟩
  simp only [opening, hoctet, hzero, hlast]
  rw [if_neg (by omega), if_neg (by omega), if_neg (by omega), if_neg (by omega),
    if_pos (by omega), Nat.add_sub_cancel_left]

/-! ## Characters and texts -/

lemma decodeFrom_two {n : Nat} (hlow : 0x80 ≤ n) (hhigh : n < 0x800) (index : Nat)
    (rest : List UInt8) :
    decodeFrom index none (UInt8.ofNat (0xC0 + n / 0x40) :: tail n :: rest)
      = (decodeFrom (index + 2) none rest).map (Char.ofNat n :: ·) := by
  rw [decodeFrom_lead (opening_two (by omega) (by omega)),
    decodeFrom_feed_scalar (feed_last (by omega) (by omega))]

lemma decodeFrom_three {n : Nat} (hlow : 0x800 ≤ n) (hhigh : n < 0x10000)
    (hscalar : n < 0xD800 ∨ 0xDFFF < n) (index : Nat) (rest : List UInt8) :
    decodeFrom index none (UInt8.ofNat (0xE0 + n / 0x1000) :: tail (n / 0x40) :: tail n :: rest)
      = (decodeFrom (index + 3) none rest).map (Char.ofNat n :: ·) := by
  have hlead : n / 0x1000 = n / 0x40 / 0x40 := by omega
  rw [decodeFrom_lead (opening_three (by omega)), hlead,
    decodeFrom_feed_lead (feed_next (by split <;> omega) (by split <;> omega)),
    decodeFrom_feed_scalar (feed_last (by omega) (by omega))]

lemma decodeFrom_four {n : Nat} (hlow : 0x10000 ≤ n) (hhigh : n < 0x110000) (index : Nat)
    (rest : List UInt8) :
    decodeFrom index none
        (UInt8.ofNat (0xF0 + n / 0x40000) :: tail (n / 0x1000) :: tail (n / 0x40) :: tail n :: rest)
      = (decodeFrom (index + 4) none rest).map (Char.ofNat n :: ·) := by
  have hlead : n / 0x40000 = n / 0x1000 / 0x40 := by omega
  have hmiddle : n / 0x1000 = n / 0x40 / 0x40 := by omega
  rw [decodeFrom_lead (opening_four (by omega)), hlead,
    decodeFrom_feed_lead (feed_next (by split <;> omega) (by split <;> omega)), hmiddle,
    decodeFrom_feed_lead (feed_next (by omega) (by omega)),
    decodeFrom_feed_scalar (feed_last (by omega) (by omega))]

/-- The octets of a character are read as that character. -/
lemma decodeFrom_encodeChar (c : Char) (index : Nat) (rest : List UInt8) :
    decodeFrom index none (encodeChar c ++ rest)
      = (decodeFrom (index + (encodeChar c).length) none rest).map (c :: ·) := by
  have hvalid : c.toNat < 0xD800 ∨ 0xDFFF < c.toNat ∧ c.toNat < 0x110000 := c.valid
  have hc : Char.ofNat c.toNat = c := Char.ofNat_toNat c
  rw [encodeChar]
  split
  · rename_i hascii
    rw [List.singleton_append, decodeFrom_scalar (opening_ascii hascii), hc]
    rfl
  · split
    · rename_i hwide htwo
      have hread := decodeFrom_two (by omega) htwo index rest
      rw [hc] at hread
      exact hread
    · split
      · rename_i _ hwide hthree
        have hread := decodeFrom_three (by omega) hthree (by omega) index rest
        rw [hc] at hread
        exact hread
      · rename_i _ _ hwide
        have hread := decodeFrom_four (Nat.not_lt.mp hwide) (by omega) index rest
        rw [hc] at hread
        exact hread

lemma decodeFrom_encode (text : List Char) (index : Nat) :
    decodeFrom index none (encode text) = .ok text := by
  induction text generalizing index with
  | nil => rfl
  | cons c rest ih =>
    rw [encode, List.flatMap_cons, decodeFrom_encodeChar, ← encode, ih]
    rfl

/-- **A text is read back from its octets.** -/
theorem decode_encode (text : List Char) : decode (encode text) = .ok text :=
  decodeFrom_encode text 0

/-! ## What is read as a text -/

/-- A number without its lowest bits, six for each octet that is missing. -/
def upper : Nat → Nat → Nat
  | 0, n => n
  | missing + 1, n => upper missing n / 0x40

/-- The octets with the lowest bits of a number. -/
def tails : Nat → Nat → List UInt8
  | 0, _ => []
  | missing + 1, n => tail (upper missing n) :: tails missing n

/-- Octets in front of the missing ones of a pending character.  Whatever number has the bits read
so far, and next bits within the bounds, is that of a character with these octets in front. -/
structure Pending.Follows (pending : Pending) (front : List UInt8) : Prop where
  missing_pos : 1 ≤ pending.missing
  low_ge : 0x80 ≤ pending.low
  high_le : pending.high ≤ 0xBF
  encodeChar_eq : ∀ n, upper pending.missing n = pending.value →
    pending.low ≤ 0x80 + upper (pending.missing - 1) n % 0x40 →
    0x80 + upper (pending.missing - 1) n % 0x40 ≤ pending.high →
    encodeChar (Char.ofNat n) = front ++ tails pending.missing n

/-- The octets of what was opened, as far as they have been read. -/
def Opening.Follows (front : List UInt8) : Opening → Prop
  | .scalar c => encodeChar c = front
  | .lead pending => pending.Follows front
  | .invalid => True

/-- The octets of a pending character that have been read; none if there is no such character. -/
def Front : Option Pending → List UInt8 → Prop
  | none, front => front = []
  | some pending, front => pending.Follows front

lemma encodeChar_ofNat {n : Nat} (h : n.isValidChar) :
    encodeChar (Char.ofNat n) =
      if n < 0x80 then [UInt8.ofNat n]
      else if n < 0x800 then [UInt8.ofNat (0xC0 + n / 0x40), tail n]
      else if n < 0x10000 then [UInt8.ofNat (0xE0 + n / 0x1000), tail (n / 0x40), tail n]
      else [UInt8.ofNat (0xF0 + n / 0x40000), tail (n / 0x1000), tail (n / 0x40), tail n] := by
  have hn : (Char.ofNat n).toNat = n := by
    rw [Char.ofNat, dif_pos h]
    rfl
  rw [encodeChar, hn]
  rfl

lemma ofNat_eq {octet : UInt8} {n : Nat} (h : octet.toNat = n) : UInt8.ofNat n = octet := by
  rw [← h, UInt8.ofNat_toNat]

/-- What an octet opens begins with that octet. -/
lemma follows_opening (octet : UInt8) : (opening octet).Follows [octet] := by
  have hlt := octet.toNat_lt
  unfold opening
  dsimp only
  split
  · rename_i hascii
    have hvalid : octet.toNat.isValidChar := Or.inl (by omega)
    rw [Opening.Follows, encodeChar_ofNat hvalid, if_pos hascii, UInt8.ofNat_toNat]
  split
  · trivial
  split
  · refine ⟨Nat.le_refl 1, Nat.le_refl _, Nat.le_refl _, fun n hvalue _ _ => ?_⟩
    dsimp only [upper] at hvalue ⊢
    have hoctet : UInt8.ofNat (0xC0 + n / 0x40) = octet := ofNat_eq (by omega)
    rw [encodeChar_ofNat (Or.inl (by omega)), if_neg (by omega), if_pos (by omega), hoctet]
    simp [tails, upper]
  split
  · refine ⟨Nat.le_succ 1, by dsimp only; split <;> omega, by dsimp only; split <;> omega,
      fun n hvalue hlow hhigh => ?_⟩
    dsimp only [upper, Nat.reduceSub] at hvalue hlow hhigh ⊢
    -- the bounds of the second octet keep shorter forms out, and surrogates
    have hwide : 0x800 ≤ n := by split at hlow <;> omega
    have hvalid : n.isValidChar := by
      unfold Nat.isValidChar
      split at hhigh <;> omega
    have hoctet : UInt8.ofNat (0xE0 + n / 0x1000) = octet := ofNat_eq (by omega)
    rw [encodeChar_ofNat hvalid, if_neg (by omega), if_neg (by omega), if_pos (by omega), hoctet]
    simp [tails, upper]
  split
  · refine ⟨Nat.le_add_left 1 2, by dsimp only; split <;> omega, by dsimp only; split <;> omega,
      fun n hvalue hlow hhigh => ?_⟩
    dsimp only [upper, Nat.reduceSub] at hvalue hlow hhigh ⊢
    -- here they keep shorter forms out, and numbers past the last character
    have hwide : 0x10000 ≤ n := by split at hlow <;> omega
    have hvalid : n.isValidChar := by
      unfold Nat.isValidChar
      split at hhigh <;> omega
    have hoctet : UInt8.ofNat (0xF0 + n / 0x40000) = octet := ofNat_eq (by omega)
    rw [encodeChar_ofNat hvalid, if_neg (by omega), if_neg (by omega), if_neg (by omega), hoctet]
    simp [tails, upper, Nat.div_div_eq_div_mul]
  · trivial

/-- What a pending character turns into has one octet more in front. -/
lemma Pending.Follows.feed {pending : Pending} {front : List UInt8} (h : pending.Follows front)
    (octet : UInt8) : (pending.feed octet).Follows (front ++ [octet]) := by
  obtain ⟨missing, low, high, value, taken⟩ := pending
  obtain ⟨hmissing, hlow, hhigh, hencode⟩ := h
  dsimp only at hmissing hlow hhigh hencode
  unfold Pending.feed
  dsimp only
  split
  · trivial
  obtain ⟨missing, rfl⟩ : ∃ others, missing = others + 1 := ⟨missing - 1, by omega⟩
  rw [Nat.add_sub_cancel] at hencode
  split
  · obtain rfl : missing = 0 := by omega
    have hoctet : tail (value * 0x40 + (octet.toNat - 0x80)) = octet := ofNat_eq (by omega)
    dsimp only [upper, tails] at hencode
    have hread := hencode (value * 0x40 + (octet.toNat - 0x80)) (by omega) (by omega) (by omega)
    rwa [hoctet] at hread
  · refine ⟨by dsimp only; omega, Nat.le_refl _, Nat.le_refl _, fun n hvalue _ _ => ?_⟩
    dsimp only at hvalue ⊢
    rw [Nat.add_sub_cancel] at hvalue ⊢
    have hoctet : tail (upper missing n) = octet := ofNat_eq (by omega)
    have hvalue : upper (missing + 1) n = value := by
      rw [upper]
      omega
    have hread := hencode n hvalue (by omega) (by omega)
    rw [hread, tails, hoctet, List.append_assoc, List.singleton_append]

lemma front_none : Front none [] := Eq.refl []

/-- **What an octet can open**, behind a pending character or where one is due. -/
lemma Front.follows {pending? : Option Pending} {front : List UInt8} {octet : UInt8}
    {opened : Opening} : Front pending? front →
      (match pending? with
        | none => opening octet
        | some pending => pending.feed octet) = opened → opened.Follows (front ++ [octet]) := by
  rintro h rfl
  cases pending? with
  | none =>
    obtain rfl : front = [] := h
    exact follows_opening octet
  | some pending => exact Pending.Follows.feed h octet

/-- A text that was read has the octets that were read, those of the pending character included. -/
lemma encode_of_decodeFrom {index : Nat} {pending? : Option Pending} {front octets : List UInt8}
    {text : List Char} (hfront : Front pending? front)
    (h : decodeFrom index pending? octets = .ok text) : encode text = front ++ octets := by
  induction octets generalizing index pending? front text with
  | nil =>
    cases pending? with
    | none =>
      obtain rfl : front = [] := hfront
      cases h
      rfl
    | some pending => cases h
  | cons octet rest ih =>
    rw [List.append_cons]
    simp only [decodeFrom] at h
    split at h
    · rename_i c hscalar
      have hc : encodeChar c = front ++ [octet] := Front.follows hfront hscalar
      obtain ⟨others, hothers, rfl⟩ := map_eq_ok.mp h
      have hrest : encode others = rest := ih front_none hothers
      rw [encode, List.flatMap_cons, ← encode, hrest, hc]
    · rename_i pending hlead
      have hnext : Front (some pending) (front ++ [octet]) := Front.follows hfront hlead
      exact ih hnext h
    · cases h

/-- **Octets are read as a text** exactly if they are the octets of that text. -/
theorem decode_eq_ok {octets : List UInt8} {text : List Char} :
    decode octets = .ok text ↔ encode text = octets := by
  constructor
  · intro h
    exact encode_of_decodeFrom front_none h
  · rintro rfl
    exact decode_encode text

/-! ## The octets of a string -/

lemma encodeChar_eq (c : Char) : encodeChar c = String.utf8EncodeChar c := by
  have hvalid : c.toNat < 0xD800 ∨ 0xDFFF < c.toNat ∧ c.toNat < 0x110000 := c.valid
  have htail : ∀ bits, tail bits = UInt8.ofNat (bits % 64 + 128) := fun bits =>
    congrArg UInt8.ofNat (Nat.add_comm _ _)
  have hlead : ∀ first bits count, bits < count →
      UInt8.ofNat (first + bits) = UInt8.ofNat (bits % count + first) := by
    intro first bits count h
    rw [Nat.mod_eq_of_lt h, Nat.add_comm]
  unfold encodeChar String.utf8EncodeChar
  simp only [Char.toNat_val]
  split
  · rw [if_pos (by omega)]
  split
  · rw [if_neg (by omega), if_pos (by omega), hlead 0xC0 _ 32 (by omega)]
    simp only [← htail]
    rfl
  split
  · rw [if_neg (by omega), if_neg (by omega), if_pos (by omega), hlead 0xE0 _ 16 (by omega)]
    simp only [← htail]
    rfl
  · rw [if_neg (by omega), if_neg (by omega), if_neg (by omega), hlead 0xF0 _ 8 (by omega)]
    simp only [← htail]
    rfl

/-- The octets of a text are those that its string is made of. -/
theorem toByteArray_encode (text : String) :
    (encode text.toList).toByteArray = text.toByteArray := by
  have hchars : encodeChar = String.utf8EncodeChar := funext encodeChar_eq
  rw [encode, hchars]
  exact String.utf8Encode_toList

/-! ## Parts of octets -/

/-- Behind octets that are read to their end, more octets are read by themselves. -/
lemma decodeFrom_append {index : Nat} {pending? : Option Pending} {octets : List UInt8}
    {text : List Char} (h : decodeFrom index pending? octets = .ok text) (more : List UInt8) :
    ∃ later, decodeFrom index pending? (octets ++ more)
      = (decodeFrom later none more).map (text ++ ·) := by
  induction octets generalizing index pending? text with
  | nil =>
    cases pending? with
    | none =>
      cases h
      refine ⟨index, ?_⟩
      cases hmore : decodeFrom index none more <;> simp [hmore, Except.map]
    | some pending => cases h
  | cons octet rest ih =>
    rw [List.cons_append]
    simp only [decodeFrom] at h ⊢
    split at h
    · obtain ⟨others, hothers, rfl⟩ := map_eq_ok.mp h
      obtain ⟨later, hlater⟩ := ih hothers
      exact ⟨later, by rw [hlater, map_map]; rfl⟩
    · exact ih h
    · cases h

lemma eq_nil_of_decodeFrom {index : Nat} {pending? : Option Pending} {octets : List UInt8}
    (h : decodeFrom index pending? octets = .ok []) : octets = [] ∧ pending? = none := by
  induction octets generalizing index pending? with
  | nil =>
    cases pending? with
    | none => exact ⟨rfl, rfl⟩
    | some pending => cases h
  | cons octet rest ih =>
    simp only [decodeFrom] at h
    split at h
    · obtain ⟨others, -, hothers⟩ := map_eq_ok.mp h
      cases hothers
    · -- the octet opened a character, and nothing is left to end it
      cases (ih h).2
    · cases h

/-- **If a part of some octets is a text**, the octets are read as that text and what follows it,
and something follows it if octets do. -/
theorem decode_append {octets more : List UInt8} {text part : List Char}
    (hpart : decode octets = .ok part) (h : decode (octets ++ more) = .ok text) :
    ∃ rest, text = part ++ rest ∧ (rest = [] → more = []) := by
  obtain ⟨later, hlater⟩ := decodeFrom_append hpart more
  rw [decode, hlater] at h
  obtain ⟨rest, hrest, rfl⟩ := map_eq_ok.mp h
  refine ⟨rest, rfl, ?_⟩
  rintro rfl
  exact (eq_nil_of_decodeFrom hrest).1

/-- A character is written with one octet below 128, or its last octet is none of these. -/
lemma encodeChar_cases (c : Char) :
    c.toNat < 0x80 ∧ encodeChar c = [UInt8.ofNat c.toNat] ∨
      ∃ front, encodeChar c = front ++ [tail c.toNat] := by
  rw [encodeChar]
  split
  · rename_i hascii
    exact Or.inl ⟨hascii, rfl⟩
  split
  · exact Or.inr ⟨[_], rfl⟩
  split
  · exact Or.inr ⟨[_, _], rfl⟩
  · exact Or.inr ⟨[_, _, _], rfl⟩

/-- The octets of a character that is not below 128 are not either. -/
lemma le_toNat_of_mem_encodeChar {c : Char} (hc : ¬ c.toNat < 0x80) {octet : UInt8}
    (h : octet ∈ encodeChar c) : 0x80 ≤ octet.toNat := by
  have hvalid : c.toNat < 0xD800 ∨ 0xDFFF < c.toNat ∧ c.toNat < 0x110000 := c.valid
  have hlead : ∀ n, 0x80 ≤ n → n < 0x100 → 0x80 ≤ (UInt8.ofNat n).toNat := by
    intro n hlow hlt
    rw [UInt8.toNat_ofNat_of_lt' hlt]
    exact hlow
  rw [encodeChar, if_neg hc] at h
  split at h
  · simp only [List.mem_cons, List.not_mem_nil, or_false] at h
    rcases h with rfl | rfl <;> exact hlead _ (by omega) (by omega)
  split at h
  · simp only [List.mem_cons, List.not_mem_nil, or_false] at h
    rcases h with rfl | rfl | rfl <;> exact hlead _ (by omega) (by omega)
  · simp only [List.mem_cons, List.not_mem_nil, or_false] at h
    rcases h with rfl | rfl | rfl | rfl <;> exact hlead _ (by omega) (by omega)

/-- An octet below 128 behind others is read as a character behind their text. -/
theorem decode_append_ascii {octet : UInt8} (hoctet : octet.toNat < 0x80) {octets : List UInt8}
    {text : List Char} :
    decode (octets ++ [octet]) = .ok text ↔
      ∃ before, decode octets = .ok before ∧ text = before ++ [Char.ofNat octet.toNat] := by
  have hchar : encodeChar (Char.ofNat octet.toNat) = [octet] := by
    rw [encodeChar_ofNat (Or.inl (by omega)), if_pos hoctet, UInt8.ofNat_toNat]
  constructor
  · intro h
    rw [decode_eq_ok] at h
    rcases List.eq_nil_or_concat text with rfl | ⟨before, c, rfl⟩
    · simp [encode] at h
    · rw [List.concat_eq_append, encode, List.flatMap_append, List.flatMap_singleton, ← encode] at h
      rcases encodeChar_cases c with ⟨hascii, hone⟩ | ⟨front, hlast⟩
      · rw [hone] at h
        obtain ⟨hbefore, hsame⟩ := List.append_inj' h rfl
        obtain rfl := List.singleton_inj.mp hsame
        refine ⟨before, decode_eq_ok.mpr hbefore, ?_⟩
        rw [UInt8.toNat_ofNat_of_lt' (by change _ < 256; omega), Char.ofNat_toNat,
          List.concat_eq_append]
      · rw [hlast, ← List.append_assoc] at h
        obtain ⟨-, hsame⟩ := List.append_inj' h rfl
        have htail : (tail c.toNat).toNat = 0x80 + c.toNat % 0x40 :=
          UInt8.toNat_ofNat_of_lt' (by change _ < 256; omega)
        rw [List.singleton_inj.mp hsame] at htail
        omega
  · rintro ⟨before, hbefore, rfl⟩
    rw [decode_eq_ok] at hbefore ⊢
    rw [encode, List.flatMap_append, List.flatMap_singleton, ← encode, hbefore, hchar]

end Retrieval.Utf8

import Mathlib.Data.List.TakeWhile
import Mathlib.Tactic.Common
import Retrieval.Json.Lexeme
import Retrieval.Json.Text
import Retrieval.Json.Value

/-!
# Written strings and numbers are scanned

A string that was written is scanned as a string of the same text, whatever characters it holds and
whatever follows it (`lexemesFrom_quote`).  In front stands the equation for one character: however
it is escaped, the scan goes on in the string and holds that character as the latest
(`lexemesFrom_escape`).

A whole number is scanned as the number that was written if something follows that cannot belong to
it (`lexemesFrom_whole`), and its digits have that number for their value (`word?_whole`).
-/

namespace Retrieval.Json

/-! ## Steps of the scan -/

/-- One step of the scan. -/
lemma lexemesFrom_cons (scan : Scan) (c : Char) (rest : List Char) :
    lexemesFrom scan (c :: rest)
      = (scan.step? c).bind fun ended => (lexemesFrom ended.2 rest).map (ended.1 ++ ·) := by
  rw [lexemesFrom]
  cases scan.step? c with
  | none => rfl
  | some ended => cases hrest : lexemesFrom ended.2 rest <;> simp [hrest]

/-- A step at which no lexeme ends. -/
lemma lexemesFrom_step {scan next : Scan} {c : Char} (h : scan.step? c = some ([], next))
    (rest : List Char) : lexemesFrom scan (c :: rest) = lexemesFrom next rest := by
  simp [lexemesFrom_cons, h]

/-- A step at which a lexeme ends. -/
lemma lexemesFrom_end {scan next : Scan} {c : Char} {lexeme : Lexeme}
    (h : scan.step? c = some ([lexeme], next)) (rest : List Char) :
    lexemesFrom scan (c :: rest) = (lexemesFrom next rest).map (lexeme :: ·) := by
  simp [lexemesFrom_cons, h]

/-! ## Strings -/

/-- Characters read of a string without a surrogate, the latest first. -/
def plain (chars : List Char) : Content :=
  ⟨chars, none, false⟩

lemma hexDigit?_digitChar : ∀ digit < 16, hexDigit? (Nat.digitChar digit) = some digit := by
  decide

/-- A control character is read from its number. -/
lemma lexemesFrom_unit {n : Nat} (h : n < 0x20) (chars rest : List Char) :
    lexemesFrom (.string (plain chars)) (['\\', 'u', '0', '0'] ++ hexPair n ++ rest)
      = lexemesFrom (.string (plain (Char.ofNat n :: chars))) rest := by
  have hslash : (Scan.string (plain chars)).step? '\\' = some ([], .escape (plain chars)) := rfl
  have hu : (Scan.escape (plain chars)).step? 'u' = some ([], .unit (plain chars) 4 0) := rfl
  have hfirst : (Scan.unit (plain chars) 4 0).step? '0' = some ([], .unit (plain chars) 3 0) := rfl
  have hsecond : (Scan.unit (plain chars) 3 0).step? '0' = some ([], .unit (plain chars) 2 0) := rfl
  have hhigh : (Scan.unit (plain chars) 2 0).step? (Nat.digitChar (n / 16))
      = some ([], .unit (plain chars) 1 (n / 16)) := by
    simp [Scan.step?, hexDigit?_digitChar (n / 16) (by omega)]
  have hvalue : n / 16 * 16 + n % 16 = n := by omega
  have hunit : (plain chars).pushUnit n = plain (Char.ofNat n :: chars) := by
    rw [Content.pushUnit, if_neg (by omega), if_neg (by omega)]
    rfl
  have hlow : (Scan.unit (plain chars) 1 (n / 16)).step? (Nat.digitChar (n % 16))
      = some ([], .string (plain (Char.ofNat n :: chars))) := by
    simp [Scan.step?, hexDigit?_digitChar (n % 16) (by omega), hvalue, hunit]
  simp only [hexPair, List.cons_append, List.nil_append]
  rw [lexemesFrom_step hslash, lexemesFrom_step hu, lexemesFrom_step hfirst,
    lexemesFrom_step hsecond, lexemesFrom_step hhigh, lexemesFrom_step hlow]

/-- A letter behind a backslash stands for a character. -/
lemma lexemesFrom_letter {letter c : Char} (hletter : escaped? letter = some c) (hu : letter ≠ 'u')
    (chars rest : List Char) :
    lexemesFrom (.string (plain chars)) ('\\' :: letter :: rest)
      = lexemesFrom (.string (plain (c :: chars))) rest := by
  have hslash : (Scan.string (plain chars)).step? '\\' = some ([], .escape (plain chars)) := rfl
  have hescaped : (Scan.escape (plain chars)).step? letter
      = some ([], .string (plain (c :: chars))) := by
    simp [Scan.step?, hu, hletter, Content.push, plain]
  rw [lexemesFrom_step hslash, lexemesFrom_step hescaped]

/-- A character is read back, however it is escaped. -/
lemma lexemesFrom_escape (c : Char) (chars rest : List Char) :
    lexemesFrom (.string (plain chars)) (escape c ++ rest)
      = lexemesFrom (.string (plain (c :: chars))) rest := by
  rw [escape]
  split_ifs with hquote hslash hback hfeed hline hreturn htab hcontrol
  · subst hquote
    exact lexemesFrom_letter rfl (by decide) chars rest
  · subst hslash
    exact lexemesFrom_letter rfl (by decide) chars rest
  · subst hback
    exact lexemesFrom_letter rfl (by decide) chars rest
  · subst hfeed
    exact lexemesFrom_letter rfl (by decide) chars rest
  · subst hline
    exact lexemesFrom_letter rfl (by decide) chars rest
  · subst hreturn
    exact lexemesFrom_letter rfl (by decide) chars rest
  · subst htab
    exact lexemesFrom_letter rfl (by decide) chars rest
  · have hunit := lexemesFrom_unit hcontrol chars rest
    rw [Char.ofNat_toNat] at hunit
    exact hunit
  · have hstep : (Scan.string (plain chars)).step? c
        = some ([], .string (plain (c :: chars))) := by
      simp [Scan.step?, hquote, hslash, hcontrol, Content.push, plain]
    exact lexemesFrom_step hstep rest

lemma lexemesFrom_content (text chars rest : List Char) :
    lexemesFrom (.string (plain chars)) (text.flatMap escape ++ '"' :: rest)
      = (lexemesFrom .between rest).map
          (.string (some (String.ofList (chars.reverse ++ text))) :: ·) := by
  induction text generalizing chars with
  | nil =>
    rw [List.append_nil]
    exact lexemesFrom_end rfl rest
  | cons c text ih =>
    rw [List.flatMap_cons, List.append_assoc, lexemesFrom_escape, ih, List.reverse_cons,
      List.append_assoc, List.singleton_append]

/-- **A written string is scanned as its text.** -/
theorem lexemesFrom_quote (text rest : List Char) :
    lexemesFrom .between (quote text ++ rest)
      = (lexemesFrom .between rest).map (.string (some (String.ofList text)) :: ·) := by
  have hopen : Scan.between.step? '"' = some ([], .string (plain [])) := rfl
  rw [quote, List.cons_append, List.append_assoc, List.singleton_append, lexemesFrom_step hopen]
  exact lexemesFrom_content text [] rest

/-! ## Whole numbers -/

lemma isDigit_of_mem_whole {n : Nat} {c : Char} (h : c ∈ whole n) : c.isDigit = true :=
  Nat.isDigit_of_mem_toDigits (by decide) (by decide) h

/-- Only zero begins with a zero. -/
lemma head?_whole {n : Nat} (h : 0 < n) : (whole n).head? ≠ some '0' := by
  induction n using Nat.strongRecOn with
  | ind n ih =>
    rw [whole, Nat.toDigits_eq_if (by decide)]
    split
    · have hdigit : Nat.digitChar n ≠ '0' := by
        rw [ne_eq, Nat.digitChar_eq_zero]
        omega
      simpa using hdigit
    · have hrest := ih (n / 10) (by omega) (by omega)
      obtain ⟨first, others, hdigits⟩ := List.exists_cons_of_ne_nil
        (Nat.toDigits_ne_nil : Nat.toDigits 10 (n / 10) ≠ [])
      rw [whole, hdigits] at hrest
      rw [hdigits]
      exact hrest

lemma isNumber_whole (n : Nat) : isNumber (whole n) = true := by
  have hdigits : ∀ c ∈ whole n, c.isDigit = true := fun c hc => isDigit_of_mem_whole hc
  have hne : whole n ≠ [] := Nat.toDigits_ne_nil
  have hwhole : isWhole (whole n) = true := by
    have hhead : whole n = ['0'] ∨ (whole n).head? ≠ some '0' := by
      rcases Nat.eq_zero_or_pos n with rfl | hpositive
      · exact Or.inl rfl
      · exact Or.inr (head?_whole hpositive)
    simpa [isWhole, isDigits, hne] using ⟨hdigits, hhead⟩
  have hsign : ∀ rest, whole n ≠ '-' :: rest := by
    intro rest h
    have hminus := hdigits '-' (by rw [h]; exact List.mem_cons_self)
    exact absurd hminus (by decide)
  have htake : (whole n).takeWhile Char.isDigit = whole n :=
    List.takeWhile_eq_self_iff.mpr hdigits
  have hdrop : (whole n).dropWhile Char.isDigit = [] :=
    List.dropWhile_eq_nil_iff.mpr hdigits
  rw [isNumber, htake, hdrop, hwhole]
  · rfl
  · exact hsign

lemma atom?_whole (n : Nat) : atom? (whole n) = some (.number (whole n)) := by
  have hletter : ∀ {c : Char} {rest : List Char}, c.isDigit = false → whole n ≠ c :: rest := by
    intro c rest hc h
    have hdigit : c.isDigit = true := isDigit_of_mem_whole (by rw [h]; exact List.mem_cons_self)
    rw [hdigit] at hc
    cases hc
  rw [atom?, if_neg (hletter (by decide)), if_neg (hletter (by decide)),
    if_neg (hletter (by decide)), if_pos (isNumber_whole n)]

lemma isAtomic_of_isDigit {c : Char} (h : c.isDigit = true) : isAtomic c = true := by
  simp [isAtomic, Char.isAlphanum, h]

/-- The scan gathers an atom up to the first character that cannot belong to it. -/
lemma lexemesFrom_atom {text : List Char} (htext : ∀ c ∈ text, isAtomic c = true) {lexeme : Lexeme}
    {read : List Char} (hlexeme : atom? (read.reverse ++ text) = some lexeme) {c : Char}
    (hc : isAtomic c = false) (rest : List Char) :
    lexemesFrom (.atom read) (text ++ c :: rest)
      = (lexemesFrom .between (c :: rest)).map (lexeme :: ·) := by
  induction text generalizing read with
  | nil =>
    rw [List.append_nil] at hlexeme
    rw [List.nil_append, lexemesFrom, lexemesFrom, Scan.step?, Scan.step?, hc, hlexeme]
    cases hbegin : Scan.begin? c with
    | none => rfl
    | some begun =>
      cases hrest : lexemesFrom begun.2 rest <;> simp [hrest]
  | cons first text ih =>
    rw [List.forall_mem_cons] at htext
    have hstep : (Scan.atom read).step? first = some ([], .atom (first :: read)) := by
      simp [Scan.step?, htext.1]
    rw [List.cons_append, lexemesFrom_step hstep]
    refine ih htext.2 ?_
    rwa [List.reverse_cons, List.append_assoc, List.singleton_append]

/-- **A written whole number is scanned as it was written.** -/
theorem lexemesFrom_whole (n : Nat) {c : Char} (hc : isAtomic c = false) (rest : List Char) :
    lexemesFrom .between (whole n ++ c :: rest)
      = (lexemesFrom .between (c :: rest)).map (.number (whole n) :: ·) := by
  have hatomic : ∀ c ∈ whole n, isAtomic c = true := fun c hc =>
    isAtomic_of_isDigit (isDigit_of_mem_whole hc)
  have hatom := atom?_whole n
  cases hdigits : whole n with
  | nil => exact absurd hdigits Nat.toDigits_ne_nil
  | cons first others =>
    rw [hdigits] at hatomic hatom
    rw [List.forall_mem_cons] at hatomic
    have hstep : Scan.between.step? first = some ([], .atom [first]) := by
      have hdigit : first.isDigit = true := isDigit_of_mem_whole (hdigits ▸ List.mem_cons_self)
      have hblank : isBlank first = false := by
        rw [Bool.eq_false_iff]
        intro hblank
        simp only [isBlank, Bool.or_eq_true, decide_eq_true_eq] at hblank
        rcases hblank with ((rfl | rfl) | rfl) | rfl <;> exact absurd hdigit (by decide)
      have hquote : first ≠ '"' := by
        rintro rfl
        exact absurd hdigit (by decide)
      simp [Scan.step?, Scan.begin?, hblank, hquote, hatomic.1]
    have hread : atom? ([first].reverse ++ others) = some (.number (first :: others)) := hatom
    rw [List.cons_append, lexemesFrom_step hstep]
    exact lexemesFrom_atom hatomic.2 hread hc rest

/-! ## Values -/

lemma digitsValue_whole (n : Nat) : digitsValue (whole n) = n := by
  have hvalue : Nat.ofDigitChars 10 (whole n) 0 = n := Nat.ofDigitChars_ten_toDigits
  rw [Nat.ofDigitChars_eq_foldl] at hvalue
  rw [digitsValue]
  simpa only [Nat.mul_comm] using hvalue

/-- **A written whole number is its own value**, if that has 32 bits. -/
theorem word?_whole (value : UInt32) : word? (.number (whole value.toNat)) = some value := by
  have hdigits : (whole value.toNat).all Char.isDigit = true :=
    List.all_eq_true.mpr fun c hc => isDigit_of_mem_whole hc
  rw [word?, digitsValue_whole, if_pos ⟨hdigits, value.toNat_lt⟩, UInt32.ofNat_toNat]

end Retrieval.Json

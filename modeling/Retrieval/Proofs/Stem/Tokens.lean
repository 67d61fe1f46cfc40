import Mathlib.Tactic.Common
import Retrieval.Proofs.Text.Tokens
import Retrieval.Stem.English
import Retrieval.Stem.Language
import Retrieval.Stem.Russian

/-!
# Stems of tokens

The lemma of a token is a word in lower case, by the rules of English and of Russian and where words
are left alone (`Lemmatizer.keepsTokens_english`, `Lemmatizer.keepsTokens_russian`,
`Lemmatizer.keepsTokens_identity`).  So the lexer of queries, which lowers last, leaves it as it is.

A Russian stem is the beginning of its word up to the first vowel and a part of the rest, from the
front.  An English stem is put together of letters of its word and of small letters, and no step
takes the whole word away: a step that only takes off an ending asks that something stand before the
ending, a vowel or the first region, and a region does not begin with the word.  The one exception
is a possessive ending, and tokens hold no apostrophe.

As these stems hold nothing but letters of their words and small letters, they bring no blank and no
delimiter into a word.  Of any other stemmer this is asked (`Lemmatizer.StemsWhole`), and then its
lemmatizer keeps words whole (`Lemmatizer.keepsWhole_ofStem`).
-/

namespace Retrieval.Stem

open Text (IsToken)
open Unicode (IsSettled isCut lowercase)

/-- The letters that stemmers write into a word of their own accord. -/
def smallLetters : List Char :=
  "abcdefghijklmnopqrstuvwxyz".toList

/-- This is checked by running through the letters, not through all characters. -/
lemma smallLetters_plain {c : Char} (h : c ∈ smallLetters) : IsSettled c ∧ isCut c = false := by
  have hall : smallLetters.all (fun c => decide (IsSettled c ∧ isCut c = false)) = true := by
    decide
  exact of_decide_eq_true (List.all_eq_true.mp hall c h)

/-! ## Suffixes -/

lemma append_of_cutSuffix? {suffixes : List String} {word : List Char} {cut : Cut}
    (h : cutSuffix? suffixes word = some cut) :
    cut.suffix ∈ suffixes ∧ cut.stem ++ cut.suffix.toList = word := by
  obtain ⟨suffix, hmem, hstrip⟩ := List.exists_of_findSome?_eq_some h
  obtain ⟨stem, hstem, rfl⟩ := Option.map_eq_some_iff.mp hstrip
  exact ⟨hmem, append_of_stripSuffix? hstem⟩

/-- No ending is taken from nothing. -/
lemma cutSuffix?_nil {suffixes : List String} (h : "" ∉ suffixes) :
    cutSuffix? suffixes [] = none := by
  cases hcut : cutSuffix? suffixes [] with
  | none => rfl
  | some cut =>
    obtain ⟨hmem, happend⟩ := append_of_cutSuffix? hcut
    rw [List.append_eq_nil_iff, String.toList_eq_nil_iff] at happend
    exact absurd (happend.2 ▸ hmem) h

/-! ## Russian -/

namespace Russian

lemma prefix_of_dropEnding? {afterA others : List String} {tail stem : List Char}
    (h : dropEnding? afterA others tail = some stem) : stem <+: tail := by
  simp only [dropEnding?] at h
  split at h
  · rename_i cut suffix hcut
    obtain ⟨-, happend⟩ := append_of_cutSuffix? hcut
    split at h
    · cases h
      exact ⟨_, happend⟩
    · cases h
  · cases h

lemma prefix_getD {found? : Option (List Char)} {tail : List Char}
    (h : ∀ stem, found? = some stem → stem <+: tail) : found?.getD tail <+: tail := by
  cases found? with
  | none => exact List.prefix_refl tail
  | some stem => exact h stem rfl

lemma prefix_of_dropAdjectival? {tail stem : List Char} (h : dropAdjectival? tail = some stem) :
    stem <+: tail := by
  obtain ⟨adjective, hadjective, rfl⟩ := Option.map_eq_some_iff.mp h
  exact (prefix_getD fun _ => prefix_of_dropEnding?).trans (prefix_of_dropEnding? hadjective)

lemma prefix_dropInflection (tail : List Char) : dropInflection tail <+: tail := by
  unfold dropInflection
  split
  · rename_i hgerund
    exact prefix_of_dropEnding? hgerund
  · refine (prefix_getD fun stem hstem => ?_).trans (prefix_getD fun _ => prefix_of_dropEnding?)
    rcases Option.or_eq_some_iff.mp hstem with hadjectival | ⟨-, hother⟩
    · exact prefix_of_dropAdjectival? hadjectival
    · rcases Option.or_eq_some_iff.mp hother with hverb | ⟨-, hnoun⟩
      · exact prefix_of_dropEnding? hverb
      · exact prefix_of_dropEnding? hnoun

lemma prefix_dropDerivation (start : Nat) (tail : List Char) :
    dropDerivation start tail <+: tail := by
  unfold dropDerivation
  split
  · rename_i cut hcut
    split_ifs
    · exact ⟨_, (append_of_cutSuffix? hcut).2⟩
    · exact List.prefix_refl tail
  · exact List.prefix_refl tail

lemma prefix_undoubleN (tail : List Char) : undoubleN tail <+: tail := by
  unfold undoubleN
  split_ifs
  · exact List.dropLast_prefix tail
  · exact List.prefix_refl tail

lemma prefix_tidy (tail : List Char) : tidy tail <+: tail := by
  unfold tidy
  split
  · rename_i stem hcut
    exact ⟨_, (append_of_cutSuffix? hcut).2⟩
  · rename_i cut _ hcut
    exact (prefix_undoubleN _).trans ⟨_, (append_of_cutSuffix? hcut).2⟩
  · exact prefix_undoubleN tail

/-- **A Russian stem is not empty.** -/
theorem stem_ne_nil {word : List Char} (hne : word ≠ []) : stem word ≠ [] := by
  unfold stem
  split
  · exact hne
  · rename_i n hvowel
    have hpositive : 0 < n := by
      simp only [firstVowel?, through?] at hvowel
      split at hvowel
      · cases hvowel
        exact Nat.succ_pos _
      · cases hvowel
    have hlength : 0 < word.length := List.length_pos_iff.mpr hne
    refine List.append_ne_nil_of_left_ne_nil (List.ne_nil_of_length_pos ?_) _
    rw [List.length_take]
    omega

/-- **A Russian stem holds letters of its word only.** -/
theorem mem_of_mem_stem {word : List Char} {c : Char} (h : c ∈ stem word) : c ∈ word := by
  unfold stem at h
  split at h
  · exact h
  · rename_i n hvowel
    have htail : ∀ tail, tidy (dropDerivation tail ((stripSuffix? ['и']
        (dropInflection (word.drop n))).getD (dropInflection (word.drop n)))) <+: word.drop n :=
      fun tail => (prefix_tidy _).trans ((prefix_dropDerivation _ _).trans
        ((prefix_getD fun _ hstrip => ⟨_, append_of_stripSuffix? hstrip⟩).trans
          (prefix_dropInflection _)))
    rcases List.mem_append.mp h with htake | htidy
    · exact List.mem_of_mem_take htake
    · exact List.mem_of_mem_drop ((htail _).subset htidy)

end Russian

/-! ## English -/

namespace English

/-- What may stand in a word while the steps run: a letter of the word they began with, a small
letter, or the mark of a `y` that acts as a consonant. -/
def IsLetter (source : List Char) (c : Char) : Prop :=
  c ∈ source ∨ c ∈ smallLetters ∨ c = 'Y'

/-- What the steps work on: a word of letters. -/
structure IsWord (source word : List Char) : Prop where
  ne_nil : word ≠ []
  letters : ∀ c ∈ word, IsLetter source c

variable {source : List Char}

/-- What a step writes is a given text, so its letters are checked by running through it. -/
lemma isLetter_of_all {text : List Char} (h : text.all smallLetters.contains = true) :
    ∀ c ∈ text, IsLetter source c := fun c hc =>
  Or.inr (Or.inl (List.contains_iff_mem.mp (List.all_eq_true.mp h c hc)))

lemma IsWord.append {stem ending : List Char} (hstem : IsWord source stem)
    (hending : ∀ c ∈ ending, IsLetter source c) : IsWord source (stem ++ ending) :=
  ⟨List.append_ne_nil_of_left_ne_nil hstem.ne_nil _,
    List.forall_mem_append.mpr ⟨hstem.letters, hending⟩⟩

lemma IsWord.letters_of_cutSuffix? {suffixes : List String} {word stem : List Char}
    {suffix : String} (h : IsWord source word)
    (hcut : cutSuffix? suffixes word = some ⟨stem, suffix⟩) :
    ∀ c ∈ stem, IsLetter source c := by
  obtain ⟨-, happend⟩ := append_of_cutSuffix? hcut
  exact fun c hc => h.letters c (happend ▸ List.mem_append_left _ hc)

/-- What an ending is taken from is a word, unless the ending was the whole word. -/
lemma IsWord.of_cutSuffix? {suffixes : List String} {word stem : List Char} {suffix : String}
    (h : IsWord source word) (hcut : cutSuffix? suffixes word = some ⟨stem, suffix⟩)
    (hne : stem ≠ []) : IsWord source stem :=
  ⟨hne, h.letters_of_cutSuffix? hcut⟩

/-- Even the whole word may be taken for an ending if something is written in its place. -/
lemma IsWord.replace {suffixes : List String} {word stem ending : List Char} {suffix : String}
    (h : IsWord source word) (hcut : cutSuffix? suffixes word = some ⟨stem, suffix⟩)
    (hending : IsWord source ending) : IsWord source (stem ++ ending) :=
  ⟨List.append_ne_nil_of_right_ne_nil stem hending.ne_nil,
    List.forall_mem_append.mpr ⟨h.letters_of_cutSuffix? hcut, hending.letters⟩⟩

lemma IsWord.dropLast {word : List Char} (h : IsWord source word) (hne : word.dropLast ≠ []) :
    IsWord source word.dropLast :=
  ⟨hne, fun c hc => h.letters c (List.dropLast_subset word hc)⟩

/-! ### Before the steps -/

lemma mem_markConsonantYFrom {afterVowel : Bool} {word : List Char} {c : Char}
    (h : c ∈ markConsonantYFrom afterVowel word) : c ∈ word ∨ c = 'Y' := by
  induction word generalizing afterVowel with
  | nil => cases h
  | cons d rest ih =>
    rw [markConsonantYFrom] at h
    rcases List.mem_cons.mp h with rfl | hrest
    · split_ifs
      · exact Or.inr rfl
      · exact Or.inl List.mem_cons_self
    · exact (ih hrest).imp_left (List.mem_cons_of_mem d)

lemma markConsonantYFrom_ne_nil {afterVowel : Bool} {word : List Char} (hne : word ≠ []) :
    markConsonantYFrom afterVowel word ≠ [] := by
  cases word with
  | nil => exact absurd rfl hne
  | cons c rest => exact List.cons_ne_nil _ _

lemma mem_prepare {word : List Char} {c : Char} (h : c ∈ prepare word) : c ∈ word ∨ c = 'Y' := by
  unfold prepare at h
  extract_lets text at h
  have htext : ∀ d ∈ text, d ∈ word := by
    simp only [text]
    split
    · exact fun d => List.mem_cons_of_mem _
    · exact fun d => id
  clear_value text
  split at h
  · rcases List.mem_cons.mp h with rfl | hrest
    · exact Or.inr rfl
    · exact (mem_markConsonantYFrom hrest).imp_left fun hmem =>
        htext c (List.mem_cons_of_mem _ hmem)
  · exact (mem_markConsonantYFrom h).imp_left (htext c)

/-- One letter at most is lost, the apostrophe at the start. -/
lemma prepare_ne_nil {word : List Char} (h : 2 ≤ word.length) : prepare word ≠ [] := by
  unfold prepare
  extract_lets text
  have htext : text ≠ [] := by
    simp only [text]
    split
    · rw [List.length_cons] at h
      exact List.ne_nil_of_length_pos (by omega)
    · exact List.ne_nil_of_length_pos (by omega)
  clear_value text
  split
  · exact List.cons_ne_nil _ _
  · exact markConsonantYFrom_ne_nil htext

lemma mem_of_mem_dropPossessive {word : List Char} {c : Char} (h : c ∈ dropPossessive word) :
    c ∈ word := by
  unfold dropPossessive at h
  split at h
  · rename_i cut hcut
    exact (append_of_cutSuffix? hcut).2 ▸ List.mem_append_left _ h
  · exact h

/-- A possessive ending begins with an apostrophe. -/
lemma dropPossessive_of_not_mem {word : List Char} (hmark : '\'' ∉ word) :
    dropPossessive word = word := by
  unfold dropPossessive
  split
  · rename_i cut hcut
    obtain ⟨hmem, happend⟩ := append_of_cutSuffix? hcut
    have hwith : ∀ suffix ∈ ["'s'", "'s", "'"], '\'' ∈ suffix.toList := by decide
    exact absurd (happend ▸ List.mem_append_right _ (hwith _ hmem)) hmark
  · rfl

/-! ### Regions -/

lemma afterVowelConsonant?_pos {text : List Char} {length : Nat}
    (h : afterVowelConsonant? text = some length) : 0 < length := by
  simp only [afterVowelConsonant?] at h
  split at h
  · obtain rfl := Option.some.inj h
    exact Nat.succ_pos _
  · cases h

/-- No region begins with the word. -/
lemma regions_pos {word : List Char} (hne : word ≠ []) :
    0 < (regions word).first ∧ 0 < (regions word).second := by
  have hlength : 0 < word.length := List.length_pos_iff.mpr hne
  unfold regions
  extract_lets first?
  have hfirst : ∀ first, first? = some first → 0 < first := by
    intro first h
    simp only [first?] at h
    split at h
    · rename_i beginning hfind
      have hlong : ∀ beginning ∈ irregularBeginnings, 0 < beginning.length := by decide
      obtain rfl := Option.some.inj h
      exact hlong beginning (List.mem_of_find?_eq_some hfind)
    · exact afterVowelConsonant?_pos h
  clear_value first?
  split
  · exact ⟨hlength, hlength⟩
  · rename_i first
    split
    · exact ⟨hfirst first rfl, hlength⟩
    · exact ⟨hfirst first rfl, Nat.add_pos_left (hfirst first rfl) _⟩

/-- What stands before a region is not empty. -/
lemma ne_nil_of_le_length {start : Nat} {stem : List Char} (hpos : 0 < start)
    (h : decide (start ≤ stem.length) = true) : stem ≠ [] :=
  List.ne_nil_of_length_pos (Nat.lt_of_lt_of_le hpos (of_decide_eq_true h))

/-! ### The steps -/

lemma ne_nil_of_any {stem : List Char} {kind : Char → Bool} (h : stem.any kind = true) :
    stem ≠ [] := by
  rintro rfl
  cases h

lemma IsWord.dropPlural {word : List Char} (h : IsWord source word) :
    IsWord source (dropPlural word) := by
  unfold English.dropPlural
  split
  · rename_i hcut
    exact h.replace hcut ⟨by decide, isLetter_of_all (by decide)⟩
  · -- an `s` falls only behind a vowel, so something stays
    rename_i hcut
    split_ifs with hvowel
    · refine h.of_cutSuffix? hcut ?_
      rintro rfl
      cases hvowel
    · exact h
  · rename_i hcut
    split_ifs
    · exact h.replace hcut ⟨by decide, isLetter_of_all (by decide)⟩
    · exact h.replace hcut ⟨by decide, isLetter_of_all (by decide)⟩
    · exact h
  · exact h

lemma IsWord.repair {regions : Regions} {stem : List Char} (h : IsWord source stem) :
    IsWord source (repair regions stem) := by
  unfold English.repair
  split
  · rename_i cut hcut
    split_ifs
    · exact h.append (isLetter_of_all (by decide))
    · -- of a doubled consonant one stays
      have hlong : ∀ suffix ∈ ["at", "bl", "iz", "bb", "dd", "ff", "gg", "mm", "nn", "pp", "rr",
          "tt"], suffix.length = 2 := by decide
      obtain ⟨hmem, happend⟩ := append_of_cutSuffix? hcut
      have hlength := congrArg List.length happend
      rw [List.length_append, String.length_toList, hlong _ hmem] at hlength
      refine h.dropLast (List.ne_nil_of_length_pos ?_)
      rw [List.length_dropLast]
      omega
  · split_ifs
    · exact h.append (isLetter_of_all (by decide))
    · exact h

lemma IsWord.dropVerbal {regions : Regions} {word : List Char} (hpos : 0 < regions.first)
    (h : IsWord source word) : IsWord source (dropVerbal regions word) := by
  unfold English.dropVerbal
  split
  · rename_i stem suffix hcut
    split_ifs with hee hfirst hvowel
    · exact (h.of_cutSuffix? hcut (ne_nil_of_le_length hpos hfirst)).append
        (isLetter_of_all (by decide))
    · exact h
    · exact (h.of_cutSuffix? hcut (ne_nil_of_any hvowel)).repair
    · exact h
  · exact h

lemma IsWord.turnY {word : List Char} (h : IsWord source word) : IsWord source (turnY word) := by
  unfold English.turnY
  split
  · rename_i y c b rest hreverse
    split_ifs
    · refine ⟨List.reverse_ne_nil_iff.mpr (List.cons_ne_nil _ _), fun d hd => ?_⟩
      rcases List.mem_cons.mp (List.mem_reverse.mp hd) with rfl | hrest
      · exact Or.inr (Or.inl (by decide))
      · refine h.letters d (List.mem_reverse.mp ?_)
        rw [hreverse]
        exact List.mem_cons_of_mem y hrest
    · exact h
  · exact h

lemma IsWord.shortenDerivation {regions : Regions} {word : List Char} (hpos : 0 < regions.first)
    (h : IsWord source word) : IsWord source (shortenDerivation regions word) := by
  have hletters : ∀ suffix ∈ derivations.map Prod.fst,
      ((derivations.lookup suffix).getD "").toList.all smallLetters.contains = true := by
    decide
  unfold English.shortenDerivation
  split
  · rename_i stem suffix hcut
    have hmem := (append_of_cutSuffix? hcut).1
    extract_lets allowed
    split_ifs with hin
    · rw [Bool.and_eq_true] at hin
      exact (h.of_cutSuffix? hcut (ne_nil_of_le_length hpos hin.1)).append
        (isLetter_of_all (hletters _ hmem))
    · exact h
  · exact h

lemma IsWord.shortenAdjective {regions : Regions} {word : List Char} (hpos : 0 < regions.first)
    (h : IsWord source word) : IsWord source (shortenAdjective regions word) := by
  have hletters : ∀ suffix ∈ adjectives.map Prod.fst,
      ((adjectives.lookup suffix).getD "").toList.all smallLetters.contains = true := by
    decide
  unfold English.shortenAdjective
  split
  · rename_i stem suffix hcut
    have hmem := (append_of_cutSuffix? hcut).1
    split_ifs with hin
    · rw [Bool.and_eq_true] at hin
      exact (h.of_cutSuffix? hcut (ne_nil_of_le_length hpos hin.1)).append
        (isLetter_of_all (hletters _ hmem))
    · exact h
  · exact h

lemma IsWord.dropResidual {regions : Regions} {word : List Char} (hpos : 0 < regions.second)
    (h : IsWord source word) : IsWord source (dropResidual regions word) := by
  unfold English.dropResidual
  split
  · rename_i stem suffix hcut
    split_ifs with hsecond
    · rw [Bool.and_eq_true] at hsecond
      exact h.of_cutSuffix? hcut (ne_nil_of_le_length hpos hsecond.1)
    · exact h
  · exact h

lemma IsWord.dropFinal {regions : Regions} {word : List Char} (hfirst : 0 < regions.first)
    (hsecond : 0 < regions.second) (h : IsWord source word) :
    IsWord source (dropFinal regions word) := by
  unfold English.dropFinal
  split
  · simp only
    split_ifs with hstem
    · rw [Bool.or_eq_true, Bool.and_eq_true] at hstem
      rcases hstem with hin | ⟨hin, -⟩
      · exact h.dropLast (ne_nil_of_le_length hsecond hin)
      · exact h.dropLast (ne_nil_of_le_length hfirst hin)
    · exact h
  · simp only
    split_ifs with hstem
    · rw [Bool.and_eq_true] at hstem
      exact h.dropLast (ne_nil_of_le_length hsecond hstem.1)
    · exact h
  · exact h

/-! ### The stem -/

/-- What the steps make of a word without its possessive ending. -/
def reduce (regions : Regions) (word : List Char) : List Char :=
  let singular := dropPlural word
  if invariant.any (·.toList = singular) then singular
  else dropFinal regions (dropResidual regions (shortenAdjective regions
    (shortenDerivation regions (turnY (dropVerbal regions singular)))))

lemma IsWord.reduce {regions : Regions} {word : List Char} (hfirst : 0 < regions.first)
    (hsecond : 0 < regions.second) (h : IsWord source word) :
    IsWord source (reduce regions word) := by
  unfold English.reduce
  extract_lets singular
  have hsingular : IsWord source singular := h.dropPlural
  split_ifs
  · exact hsingular
  · exact ((((hsingular.dropVerbal hfirst).turnY.shortenDerivation hfirst).shortenAdjective
      hfirst).dropResidual hsecond).dropFinal hfirst hsecond

/-- The steps make nothing of nothing. -/
lemma reduce_nil (regions : Regions) : reduce regions [] = [] := by
  have hplural : dropPlural [] = [] := by
    rw [dropPlural, cutSuffix?_nil (by decide)]
  have hverbal : dropVerbal regions [] = [] := by
    rw [dropVerbal, cutSuffix?_nil (by decide)]
  have hderivation : shortenDerivation regions [] = [] := by
    rw [shortenDerivation, cutSuffix?_nil (by decide)]
  have hadjective : shortenAdjective regions [] = [] := by
    rw [shortenAdjective, cutSuffix?_nil (by decide)]
  have hresidual : dropResidual regions [] = [] := by
    rw [dropResidual, cutSuffix?_nil (by decide)]
  have hy : turnY [] = [] := rfl
  have hfinal : dropFinal regions [] = [] := rfl
  simp only [reduce, hplural, hverbal, hy, hderivation, hadjective, hresidual, hfinal, ite_self]

lemma isWord_reduce {word : List Char} (hlength : 3 ≤ word.length)
    (hne : dropPossessive (prepare word) ≠ []) :
    IsWord word (reduce (regions (prepare word)) (dropPossessive (prepare word))) := by
  obtain ⟨hfirst, hsecond⟩ := regions_pos (prepare_ne_nil (by omega : 2 ≤ word.length))
  refine IsWord.reduce hfirst hsecond ⟨hne, fun c hc => ?_⟩
  exact (mem_prepare (mem_of_mem_dropPossessive hc)).imp_right Or.inr

lemma irregular_stems : ∀ pair ∈ irregular, pair.2.toList ≠ [] ∧
    pair.2.toList.all smallLetters.contains = true := by
  decide

/-- A stem is listed, or the word itself, or what the steps come to. -/
lemma stem_cases (word : List Char) :
    (∃ pair ∈ irregular, stem word = pair.2.toList) ∨ stem word = word ∨
      (3 ≤ word.length ∧
        stem word = (reduce (regions (prepare word)) (dropPossessive (prepare word))).map
          fun c => if c = 'Y' then 'y' else c) := by
  unfold stem
  split
  · rename_i pair hfind
    exact Or.inl ⟨_, List.mem_of_find?_eq_some hfind, rfl⟩
  · split_ifs with hlength
    · exact Or.inr (Or.inl rfl)
    · exact Or.inr (Or.inr ⟨by omega, rfl⟩)

/-- **An English stem is not empty** if its word is not and no apostrophe stands in it. -/
theorem stem_ne_nil {word : List Char} (hne : word ≠ []) (hmark : '\'' ∉ word) :
    stem word ≠ [] := by
  rcases stem_cases word with ⟨pair, hpair, heq⟩ | heq | ⟨hlength, heq⟩
  · rw [heq]
    exact (irregular_stems pair hpair).1
  · rwa [heq]
  · have hkept : dropPossessive (prepare word) = prepare word :=
      dropPossessive_of_not_mem fun hmem => (mem_prepare hmem).elim hmark (by decide)
    have hword := isWord_reduce hlength (by rw [hkept]; exact prepare_ne_nil (by omega))
    rw [heq]
    simpa using hword.ne_nil

/-- **An English stem holds letters of its word and small letters only.** -/
theorem mem_of_mem_stem {word : List Char} {c : Char} (h : c ∈ stem word) :
    c ∈ word ∨ c ∈ smallLetters := by
  rcases stem_cases word with ⟨pair, hpair, heq⟩ | heq | ⟨hlength, heq⟩
  · rw [heq] at h
    exact Or.inr (List.contains_iff_mem.mp (List.all_eq_true.mp (irregular_stems pair hpair).2 c h))
  · rw [heq] at h
    exact Or.inl h
  · rw [heq] at h
    obtain ⟨d, hd, rfl⟩ := List.mem_map.mp h
    have hne : dropPossessive (prepare word) ≠ [] := by
      intro hnil
      rw [hnil, reduce_nil] at hd
      cases hd
    have hletter := (isWord_reduce hlength hne).letters d hd
    split_ifs with hy
    · exact Or.inr (by decide)
    · exact hletter.imp_right fun hother => hother.resolve_right hy

end English

/-! ## Lemmatizers -/

namespace Lemmatizer

/-- Whether a lemmatizer makes of every token a word in lower case. -/
def KeepsTokens (lemmatizer : Lemmatizer) : Prop :=
  ∀ text, IsToken text → lemmatizer (String.ofList text) ≠ "" ∧
    lowercase (lemmatizer (String.ofList text)).toList = (lemmatizer (String.ofList text)).toList

lemma keepsTokens_identity : identity.KeepsTokens := by
  intro text htext
  refine ⟨?_, ?_⟩
  · simpa [identity] using htext.ne_nil
  · simpa [identity] using htext.lowercase_eq

/-- The lemmatizer over stems keeps tokens if the stems hold letters of their words and small
letters, and something is left of a word without apostrophes. -/
lemma keepsTokens_ofStem {stem : List Char → List Char}
    (hletters : ∀ word c, c ∈ stem word → c ∈ word ∨ c ∈ smallLetters)
    (hleft : ∀ word : List Char, word ≠ [] → '\'' ∉ word → stem word ≠ []) :
    KeepsTokens (ofStem stem) := by
  intro text htext
  have hmark : '\'' ∉ text := fun hmem =>
    absurd (htext.not_punctuation _ hmem) (by decide)
  have hsettled : ∀ c ∈ stem text, IsSettled c := fun c hc =>
    (hletters text c hc).elim (htext.settled c) fun hsmall => (smallLetters_plain hsmall).1
  rw [ofStem, String.toList_ofList, htext.lowercase_eq, String.toList_ofList]
  exact ⟨by simpa using hleft text htext.ne_nil hmark, Unicode.lowercaseFrom_of_settled hsettled⟩

/-- **English lemmas of tokens are words in lower case.** -/
theorem keepsTokens_english : KeepsTokens (ofStem English.stem) :=
  keepsTokens_ofStem (fun _ _ => English.mem_of_mem_stem) fun _ => English.stem_ne_nil

/-- **Russian lemmas of tokens are words in lower case.** -/
theorem keepsTokens_russian : KeepsTokens (ofStem Russian.stem) :=
  keepsTokens_ofStem (fun _ _ hc => Or.inl (Russian.mem_of_mem_stem hc))
    fun _ hne _ => Russian.stem_ne_nil hne

/-- Whether a lemmatizer brings no characters that queries are cut at into a word without them. -/
def KeepsWhole (lemmatizer : Lemmatizer) : Prop :=
  ∀ word : String, (∀ c ∈ word.toList, isCut c = false) →
    ∀ c ∈ (lemmatizer word).toList, isCut c = false

lemma keepsWhole_identity : identity.KeepsWhole :=
  fun _ h => h

/-- Whether stems hold no characters that queries are cut at, if their words hold none. -/
def StemsWhole (stem : List Char → List Char) : Prop :=
  ∀ word, (∀ c ∈ word, isCut c = false) → ∀ c ∈ stem word, isCut c = false

lemma stemsWhole_of_letters {stem : List Char → List Char}
    (hletters : ∀ word c, c ∈ stem word → c ∈ word ∨ c ∈ smallLetters) : StemsWhole stem :=
  fun word hword c hc =>
    (hletters word c hc).elim (hword c) fun hsmall => (smallLetters_plain hsmall).2

/-- **English stems hold no characters that queries are cut at.** -/
theorem stemsWhole_english : StemsWhole English.stem :=
  stemsWhole_of_letters fun _ _ => English.mem_of_mem_stem

/-- **Russian stems hold no characters that queries are cut at.** -/
theorem stemsWhole_russian : StemsWhole Russian.stem :=
  stemsWhole_of_letters fun _ _ hc => Or.inl (Russian.mem_of_mem_stem hc)

/-- **The lemmatizer over such stems keeps words whole**: lowering brings in nothing either. -/
theorem keepsWhole_ofStem {stem : List Char → List Char} (hstem : StemsWhole stem) :
    KeepsWhole (ofStem stem) := by
  intro word hword c hc
  rw [ofStem, String.toList_ofList] at hc
  refine hstem _ (fun d hd => ?_) c hc
  by_contra hcut
  rw [Bool.not_eq_false] at hcut
  have hmem := Unicode.mem_of_isCut_lowercase hd hcut
  exact Bool.noConfusion ((hword d hmem).symm.trans hcut)

/-! ### Names -/

variable {stemmer : Stemmer}

/-- Names that differ in case only name the same lemmatizer. -/
lemma ofName?_congr {a b : String} (h : Language.sameName a b = true) :
    ofName? stemmer a = ofName? stemmer b := by
  have hsame : ∀ other, Language.sameName other a = Language.sameName other b := by
    intro other
    rw [Language.sameName, Language.sameName, eq_of_beq h]
  have hnone : Language.sameName a "none" = Language.sameName b "none" := by
    rw [Language.sameName, Language.sameName, eq_of_beq h]
  simp only [ofName?, Language.ofName?, hsame, hnone]

/-- The lemmatizer of the name `none` leaves words alone. -/
lemma ofName?_none : ofName? stemmer "none" = some identity :=
  if_pos (by decide)

lemma ofName?_english : ofName? stemmer "english" = some (ofStem (stemmer .english)) :=
  (if_neg (by decide)).trans
    (congrArg (Option.map fun language => ofStem (stemmer language))
      (by decide : Language.ofName? "english" = some .english))

lemma ofName?_russian : ofName? stemmer "russian" = some (ofStem (stemmer .russian)) :=
  (if_neg (by decide)).trans
    (congrArg (Option.map fun language => ofStem (stemmer language))
      (by decide : Language.ofName? "russian" = some .russian))

/-- The names of the lemmatizers that are shipped. -/
def shippedNames : List String :=
  ["none", "english", "russian"]

/-- Every shipped name has its lemmatizer, and it keeps words whole if the stemmers do. -/
lemma exists_ofName? (henglish : StemsWhole (stemmer .english))
    (hrussian : StemsWhole (stemmer .russian)) {shipped : String} (h : shipped ∈ shippedNames) :
    ∃ lemmatizer, ofName? stemmer shipped = some lemmatizer ∧ lemmatizer.KeepsWhole := by
  simp only [shippedNames, List.mem_cons, List.not_mem_nil, or_false] at h
  rcases h with rfl | rfl | rfl
  · exact ⟨_, ofName?_none, keepsWhole_identity⟩
  · exact ⟨_, ofName?_english, keepsWhole_ofStem henglish⟩
  · exact ⟨_, ofName?_russian, keepsWhole_ofStem hrussian⟩

end Lemmatizer

end Retrieval.Stem

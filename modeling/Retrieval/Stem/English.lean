import Retrieval.Stem.Suffix

/-!
# The English stemmer

A word of three letters or more loses its endings in five steps.  Most steps ask that the ending
lie in one of two regions.  The first region begins after the first consonant that follows a vowel,
and the second begins, by the same rule, inside the first.  A `y` that begins the word or follows a
vowel acts as a consonant; it is written `Y` while the steps run.

Words whose regular stem would merge different meanings are listed with the stem they have.
-/

namespace Retrieval.Stem.English

/-! ## Letters -/

/-- Whether the letter is a vowel; a marked `Y` is none. -/
def isVowel (c : Char) : Bool :=
  c = 'a' || c = 'e' || c = 'i' || c = 'o' || c = 'u' || c = 'y'

/-- Writes `Y` for every `y` that acts as a consonant; `afterVowel` tells what stands before. -/
def markConsonantYFrom (afterVowel : Bool) : List Char → List Char
  | [] => []
  | c :: rest =>
    let c := if c = 'y' && afterVowel then 'Y' else c
    c :: markConsonantYFrom (isVowel c) rest

/-- Drops an apostrophe at the start and marks each `y` that acts as a consonant. -/
def prepare (word : List Char) : List Char :=
  let word := match word with
    | '\'' :: rest => rest
    | word => word
  match word with
  | 'y' :: rest => 'Y' :: markConsonantYFrom false rest
  | word => markConsonantYFrom false word

/-! ## Regions -/

/-- The length of the shortest start of a text that ends with a consonant after a vowel. -/
def afterVowelConsonant? (text : List Char) : Option Nat :=
  let consonants := text.takeWhile (!isVowel ·)
  let vowels := (text.drop consonants.length).takeWhile isVowel
  let length := consonants.length + vowels.length + 1
  if length ≤ text.length then some length else none

/-- Where the two regions begin. -/
structure Regions where
  first : Nat
  second : Nat

/-- Words with these beginnings have their first region right after them. -/
def irregularBeginnings : List String := ["gener", "commun", "arsen"]

/-- The regions of a prepared word; a region that does not exist begins at its end. -/
def regions (word : List Char) : Regions :=
  let first? :=
    match irregularBeginnings.find? (·.toList.isPrefixOf word) with
    | some beginning => some beginning.length
    | none => afterVowelConsonant? word
  match first? with
  | none => ⟨word.length, word.length⟩
  | some first =>
    match afterVowelConsonant? (word.drop first) with
    | none => ⟨first, word.length⟩
    | some more => ⟨first, first + more⟩

/-- Whether what follows the stem lies in the first region. -/
def Regions.inFirst (regions : Regions) (stem : List Char) : Bool :=
  regions.first ≤ stem.length

/-- Whether what follows the stem lies in the second region. -/
def Regions.inSecond (regions : Regions) (stem : List Char) : Bool :=
  regions.second ≤ stem.length

/-- Whether the word ends in a short syllable: a vowel between two consonants, the second of them
neither `w`, `x` nor `Y`, or a vowel that begins the word and a consonant. -/
def endsShort (word : List Char) : Bool :=
  match word.reverse with
  | [c, v] => !isVowel c && isVowel v
  | c :: v :: b :: _ =>
    !isVowel c && c ≠ 'w' && c ≠ 'x' && c ≠ 'Y' && isVowel v && !isVowel b
  | _ => false

/-! ## The steps -/

/-- Takes off a possessive ending. -/
def dropPossessive (word : List Char) : List Char :=
  match cutSuffix? ["'s'", "'s", "'"] word with
  | some cut => cut.stem
  | none => word

/-- Takes off a plural ending. -/
def dropPlural (word : List Char) : List Char :=
  match cutSuffix? ["sses", "ied", "ies", "us", "ss", "s"] word with
  | some ⟨stem, "sses"⟩ => stem ++ ['s', 's']
  | some ⟨stem, "s"⟩ => if stem.dropLast.any isVowel then stem else word
  | some ⟨stem, suffix⟩ =>
    if suffix = "ied" ∨ suffix = "ies" then
      if 2 ≤ stem.length then stem ++ ['i'] else stem ++ ['i', 'e']
    else word
  | none => word

/-- Repairs a stem from which a verbal ending was taken: a lost `e` comes back, a doubled
consonant becomes single. -/
def repair (regions : Regions) (stem : List Char) : List Char :=
  match cutSuffix? ["at", "bl", "iz", "bb", "dd", "ff", "gg", "mm", "nn", "pp", "rr", "tt"] stem
  with
  | some cut =>
    if cut.suffix = "at" ∨ cut.suffix = "bl" ∨ cut.suffix = "iz" then stem ++ ['e']
    else stem.dropLast
  | none => if stem.length = regions.first ∧ endsShort stem then stem ++ ['e'] else stem

/-- Takes off an ending of the past or of the present participle. -/
def dropVerbal (regions : Regions) (word : List Char) : List Char :=
  match cutSuffix? ["eedly", "eed", "ingly", "edly", "ing", "ed"] word with
  | some ⟨stem, suffix⟩ =>
    if suffix = "eedly" ∨ suffix = "eed" then
      if regions.inFirst stem then stem ++ ['e', 'e'] else word
    else if stem.any isVowel then repair regions stem
    else word
  | none => word

/-- Writes `i` for a final `y` after a consonant that does not begin the word. -/
def turnY (word : List Char) : List Char :=
  match word.reverse with
  | y :: c :: b :: rest =>
    if (y = 'y' || y = 'Y') && !isVowel c then ('i' :: c :: b :: rest).reverse else word
  | _ => word

/-- Suffixes of derivation in the first region, with what is written in their place. -/
def derivations : List (String × String) := [
  ("ization", "ize"), ("ational", "ate"), ("fulness", "ful"), ("ousness", "ous"),
  ("iveness", "ive"), ("tional", "tion"), ("biliti", "ble"), ("lessli", "less"),
  ("entli", "ent"), ("ation", "ate"), ("alism", "al"), ("aliti", "al"), ("ousli", "ous"),
  ("iviti", "ive"), ("fulli", "ful"), ("enci", "ence"), ("anci", "ance"), ("abli", "able"),
  ("izer", "ize"), ("ator", "ate"), ("alli", "al"), ("bli", "ble"), ("ogi", "og"), ("li", "")]

/-- Shortens a suffix of derivation.  An `ogi` needs an `l` before it, and an `li` one of the
letters after which it forms adverbs. -/
def shortenDerivation (regions : Regions) (word : List Char) : List Char :=
  match cutSuffix? (derivations.map Prod.fst) word with
  | some ⟨stem, suffix⟩ =>
    let allowed :=
      if suffix = "ogi" then endsWith ['l'] stem
      else if suffix = "li" then endsWith "cdeghkmnrt".toList stem
      else true
    if regions.inFirst stem && allowed then
      stem ++ ((derivations.lookup suffix).getD "").toList
    else word
  | none => word

/-- Further suffixes in the first region, with what is written in their place. -/
def adjectives : List (String × String) := [
  ("ational", "ate"), ("tional", "tion"), ("alize", "al"), ("icate", "ic"), ("iciti", "ic"),
  ("ative", ""), ("ical", "ic"), ("ness", ""), ("ful", "")]

/-- Shortens an adjectival suffix.  An `ative` must lie in the second region. -/
def shortenAdjective (regions : Regions) (word : List Char) : List Char :=
  match cutSuffix? (adjectives.map Prod.fst) word with
  | some ⟨stem, suffix⟩ =>
    if regions.inFirst stem && (suffix ≠ "ative" || regions.inSecond stem) then
      stem ++ ((adjectives.lookup suffix).getD "").toList
    else word
  | none => word

/-- Takes off a last suffix in the second region.  An `ion` needs an `s` or a `t` before it. -/
def dropResidual (regions : Regions) (word : List Char) : List Char :=
  match cutSuffix? ["ement", "ance", "ence", "able", "ible", "ment", "ant", "ent", "ism", "ate",
    "iti", "ous", "ive", "ize", "ion", "al", "er", "ic"] word with
  | some ⟨stem, suffix⟩ =>
    if regions.inSecond stem && (suffix ≠ "ion" || endsWith ['s', 't'] stem) then stem else word
  | none => word

/-- Takes off a final `e`, or one `l` of two. -/
def dropFinal (regions : Regions) (word : List Char) : List Char :=
  match word.getLast? with
  | some 'e' =>
    let stem := word.dropLast
    if regions.inSecond stem || (regions.inFirst stem && !endsShort stem) then stem else word
  | some 'l' =>
    let stem := word.dropLast
    if regions.inSecond stem && endsWith ['l'] stem then stem else word
  | _ => word

/-! ## Exceptions -/

/-- Words with a stem of their own. -/
def irregular : List (String × String) := [
  ("skis", "ski"), ("skies", "sky"), ("dying", "die"), ("lying", "lie"), ("tying", "tie"),
  ("idly", "idl"), ("gently", "gentl"), ("ugly", "ugli"), ("early", "earli"), ("only", "onli"),
  ("singly", "singl"), ("sky", "sky"), ("news", "news"), ("howe", "howe"), ("atlas", "atlas"),
  ("cosmos", "cosmos"), ("bias", "bias"), ("andes", "andes")]

/-- Words that are their own stem once a plural ending is gone. -/
def invariant : List String :=
  ["inning", "outing", "canning", "herring", "earring", "proceed", "exceed", "succeed"]

/-- The stem of a lower-case word. -/
def stem (word : List Char) : List Char :=
  match irregular.find? (·.1.toList = word) with
  | some (_, stem) => stem.toList
  | none =>
    if word.length < 3 then word
    else
      let prepared := prepare word
      let regions := regions prepared
      let singular := dropPlural (dropPossessive prepared)
      let stem :=
        if invariant.any (·.toList = singular) then singular
        else dropFinal regions (dropResidual regions (shortenAdjective regions
          (shortenDerivation regions (turnY (dropVerbal regions singular)))))
      stem.map fun c => if c = 'Y' then 'y' else c

example : stem "running".toList = "run".toList := by decide +kernel
example : stem "generalization".toList = "general".toList := by decide +kernel

end Retrieval.Stem.English

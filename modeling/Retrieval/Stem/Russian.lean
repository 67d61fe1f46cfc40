import Retrieval.Stem.Suffix

/-!
# The Russian stemmer

All endings are sought in the part of the word after its first vowel.  First the ending of a gerund,
or else a reflexive ending and the ending of an adjective, a verb or a noun, is taken off; then a
final `и`, a suffix of derivation and what a superlative or a soft sign leaves.
-/

namespace Retrieval.Stem.Russian

/-- Whether the letter is a vowel. -/
def isVowel (c : Char) : Bool :=
  "аеиоуыэюя".toList.contains c

/-! ## Regions -/

/-- The length of the shortest start of a text that ends with a character of the kind. -/
def through? (kind : Char → Bool) (text : List Char) : Option Nat :=
  let before := text.takeWhile (!kind ·)
  if before.length < text.length then some (before.length + 1) else none

/-- The length of the start that ends with the first vowel. -/
def firstVowel? (word : List Char) : Option Nat :=
  through? isVowel word

/-- How much of the text after the first vowel lies before the region of derivation, which begins
after the second consonant that follows a vowel. -/
def derivationStart? (tail : List Char) : Option Nat := do
  let a ← through? (!isVowel ·) tail
  let b ← through? isVowel (tail.drop a)
  let c ← through? (!isVowel ·) (tail.drop (a + b))
  return a + b + c

/-! ## Endings -/

/-- Takes off the longest of the endings.  An ending of the first list counts only after `а` or
`я`, which stays. -/
def dropEnding? (afterA others : List String) (tail : List Char) : Option (List Char) :=
  let longestFirst := (afterA ++ others).mergeSort (fun a b => b.length ≤ a.length)
  match cutSuffix? longestFirst tail with
  | some ⟨stem, suffix⟩ =>
    if others.contains suffix || endsWith ['а', 'я'] stem then some stem else none
  | none => none

/-- Takes off the ending of a gerund. -/
def dropGerund? : List Char → Option (List Char) :=
  dropEnding? ["в", "вши", "вшись"] ["ив", "ивши", "ившись", "ыв", "ывши", "ывшись"]

/-- Takes off the ending of an adjective. -/
def dropAdjective? : List Char → Option (List Char) :=
  dropEnding? [] ["ее", "ие", "ые", "ое", "ими", "ыми", "ей", "ий", "ый", "ой", "ем", "им", "ым",
    "ом", "его", "ого", "ему", "ому", "их", "ых", "ую", "юю", "ая", "яя", "ою", "ею"]

/-- Takes off the ending of a participle. -/
def dropParticiple? : List Char → Option (List Char) :=
  dropEnding? ["ем", "нн", "вш", "ющ", "щ"] ["ивш", "ывш", "ующ"]

/-- Takes off a reflexive ending. -/
def dropReflexive? : List Char → Option (List Char) :=
  dropEnding? [] ["ся", "сь"]

/-- Takes off the ending of a verb. -/
def dropVerb? : List Char → Option (List Char) :=
  dropEnding?
    ["ла", "на", "ете", "йте", "ли", "й", "л", "ем", "н", "ло", "но", "ет", "ют", "ны", "ть", "ешь",
      "нно"]
    ["ила", "ыла", "ена", "ейте", "уйте", "ите", "или", "ыли", "ей", "уй", "ил", "ыл", "им", "ым",
      "ен", "ило", "ыло", "ено", "ят", "ует", "уют", "ит", "ыт", "ены", "ить", "ыть", "ишь", "ую",
      "ю"]

/-- Takes off the ending of a noun. -/
def dropNoun? : List Char → Option (List Char) :=
  dropEnding? [] ["а", "ев", "ов", "ие", "ье", "е", "иями", "ями", "ами", "еи", "ии", "и", "ией",
    "ей", "ой", "ий", "й", "иям", "ям", "ием", "ем", "ам", "ом", "о", "у", "ах", "иях", "ях", "ы",
    "ь", "ию", "ью", "ю", "ия", "ья", "я"]

/-- Takes off the ending of an adjective and, below it, that of a participle. -/
def dropAdjectival? (tail : List Char) : Option (List Char) :=
  (dropAdjective? tail).map fun stem => (dropParticiple? stem).getD stem

/-! ## The steps -/

/-- Takes off the ending that the word is inflected with. -/
def dropInflection (tail : List Char) : List Char :=
  match dropGerund? tail with
  | some stem => stem
  | none =>
    let tail := (dropReflexive? tail).getD tail
    ((dropAdjectival? tail).or ((dropVerb? tail).or (dropNoun? tail))).getD tail

/-- Takes off a suffix of derivation in its region. -/
def dropDerivation (start : Nat) (tail : List Char) : List Char :=
  match cutSuffix? ["ость", "ост"] tail with
  | some cut => if start ≤ cut.stem.length then cut.stem else tail
  | none => tail

/-- Writes one `н` for two at the end. -/
def undoubleN (tail : List Char) : List Char :=
  if ['н', 'н'].isSuffixOf tail then tail.dropLast else tail

/-- Takes off a superlative ending, one `н` of two or a soft sign. -/
def tidy (tail : List Char) : List Char :=
  match cutSuffix? ["ейше", "ейш", "ь"] tail with
  | some ⟨stem, "ь"⟩ => stem
  | some cut => undoubleN cut.stem
  | none => undoubleN tail

/-- The stem of a lower-case word. -/
def stem (word : List Char) : List Char :=
  match firstVowel? word with
  | none => word
  | some n =>
    let tail := word.drop n
    let start := (derivationStart? tail).getD tail.length
    let tail := dropInflection tail
    let tail := (stripSuffix? ['и'] tail).getD tail
    word.take n ++ tidy (dropDerivation start tail)

end Retrieval.Stem.Russian

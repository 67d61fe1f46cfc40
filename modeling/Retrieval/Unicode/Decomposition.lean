import Std.Data.HashMap
import Retrieval.Unicode.CombiningClass
import Retrieval.Unicode.Decomposition.Table
import Retrieval.Unicode.WhiteSpace

/-!
# Decomposition and composition of characters

`decompose` breaks a character into its full compatibility decomposition, and `compose?` joins a
starter with the character after it into one canonical composite, if there is one.  Both read one
table of single-step mappings; the Hangul syllables follow from the positions of their letters in
the alphabet and are computed.

A canonical pair is a composite only if its first character is a starter and the composite is not
on the list of those that the standard always leaves decomposed.
-/

namespace Retrieval.Unicode

/-! ## The table -/

/-- A single decomposition step, canonical or only up to compatibility. -/
structure Decomposition where
  canonical : Bool
  target : List Char
  deriving Repr, DecidableEq

/-- The value of a hexadecimal digit written with capitals. -/
def hexValue (c : Char) : Nat :=
  if c.isDigit then c.toNat - '0'.toNat else c.toNat - 'A'.toNat + 10

/-- What has been read of an entry: the code points before the one being read, latest first, that
code point so far, and the kind of the mapping once its sign has been seen. -/
structure EntryScan where
  before : List Char := []
  point : Nat := 0
  canonical? : Option Bool := none

/-- The entry, if its sign has been seen. -/
def EntryScan.entry? (scan : EntryScan) : Option (Char × Decomposition) :=
  match scan.canonical?, (Char.ofNat scan.point :: scan.before).reverse with
  | some canonical, source :: target => some (source, ⟨canonical, target⟩)
  | _, _ => none

/-- Reads the entries of a decomposition table, which blanks separate. -/
def readDecompositions (scan : EntryScan) : List Char → List (Char × Decomposition)
  | [] => scan.entry?.toList
  | c :: rest =>
    let next (kind : Option Bool) : EntryScan :=
      ⟨Char.ofNat scan.point :: scan.before, 0, kind⟩
    if c = ' ' ∨ c = '\n' then scan.entry?.toList ++ readDecompositions {} rest
    else if c = '=' then readDecompositions (next (some true)) rest
    else if c = '~' then readDecompositions (next (some false)) rest
    else if c = '+' then readDecompositions (next scan.canonical?) rest
    else readDecompositions { scan with point := scan.point * 16 + hexValue c } rest

/-- All single-step decompositions, ascending. -/
def decompositions : List (Char × Decomposition) :=
  decompositionTexts.flatMap fun text => readDecompositions {} text.toList

/-- The single-step decompositions by code point. -/
def decompositionMap : Std.HashMap Nat Decomposition :=
  Std.HashMap.ofList (decompositions.map fun entry => (entry.1.toNat, entry.2))

theorem decompositionMap_eq : decompositionMap
    = Std.HashMap.ofList (decompositions.map fun entry => (entry.1.toNat, entry.2)) := rfl

attribute [irreducible] decompositionMap

/-- The composites that stay decomposed although their first character is a starter. -/
def excludedComposites : Ranges := [
  (0x0958, 0x095F), (0x09DC, 0x09DD), (0x09DF, 0x09DF), (0x0A33, 0x0A33), (0x0A36, 0x0A36),
  (0x0A59, 0x0A5B), (0x0A5E, 0x0A5E), (0x0B5C, 0x0B5D), (0x0F43, 0x0F43), (0x0F4D, 0x0F4D),
  (0x0F52, 0x0F52), (0x0F57, 0x0F57), (0x0F5C, 0x0F5C), (0x0F69, 0x0F69), (0x0F76, 0x0F76),
  (0x0F78, 0x0F78), (0x0F93, 0x0F93), (0x0F9D, 0x0F9D), (0x0FA2, 0x0FA2), (0x0FA7, 0x0FA7),
  (0x0FAC, 0x0FAC), (0x0FB9, 0x0FB9), (0x2ADC, 0x2ADC), (0xFB1D, 0xFB1D), (0xFB1F, 0xFB1F),
  (0xFB2A, 0xFB36), (0xFB38, 0xFB3C), (0xFB3E, 0xFB3E), (0xFB40, 0xFB41), (0xFB43, 0xFB44),
  (0xFB46, 0xFB4E), (0x1D15E, 0x1D164), (0x1D1BB, 0x1D1C0)]

/-- The pair of code points that the source of a step is composed of, with the source, if the step
is that of a composite. -/
def composite? (source : Char) : Decomposition → Option ((Nat × Nat) × Char)
  | ⟨true, [first, second]⟩ =>
    if combiningClass source = 0 ∧ combiningClass first = 0 ∧ !excludedComposites.covers source
    then some ((first.toNat, second.toNat), source)
    else none
  | _ => none

/-- The canonical composites by the pair of code points they are composed of. -/
def compositeMap : Std.HashMap (Nat × Nat) Char :=
  Std.HashMap.ofList (decompositions.filterMap fun entry => composite? entry.1 entry.2)

theorem compositeMap_eq : compositeMap
    = Std.HashMap.ofList (decompositions.filterMap fun entry => composite? entry.1 entry.2) := rfl

attribute [irreducible] compositeMap

/-! ## Hangul -/

namespace Hangul

/-- The first syllable. -/
def syllableBase : Nat := 0xAC00

/-- The first leading consonant. -/
def leadBase : Nat := 0x1100

/-- The first vowel. -/
def vowelBase : Nat := 0x1161

/-- The code point before the first closing consonant; it stands for no closing. -/
def tailBase : Nat := 0x11A7

/-- How many leading consonants there are. -/
def leadCount : Nat := 19

/-- How many vowels there are. -/
def vowelCount : Nat := 21

/-- How many closings there are, the empty one among them. -/
def tailCount : Nat := 28

/-- The letters of a precomposed syllable. -/
def decompose? (c : Char) : Option (List Char) :=
  if syllableBase ≤ c.toNat ∧ c.toNat < syllableBase + leadCount * vowelCount * tailCount then
    let index := c.toNat - syllableBase
    let lead := Char.ofNat (leadBase + index / (vowelCount * tailCount))
    let vowel := Char.ofNat (vowelBase + index % (vowelCount * tailCount) / tailCount)
    let tail := index % tailCount
    some (if tail = 0 then [lead, vowel] else [lead, vowel, Char.ofNat (tailBase + tail)])
  else none

/-- The syllable of a consonant and a vowel, or of an open syllable and a closing consonant. -/
def compose? (first second : Char) : Option Char :=
  let a := first.toNat
  let b := second.toNat
  if leadBase ≤ a ∧ a < leadBase + leadCount ∧ vowelBase ≤ b ∧ b < vowelBase + vowelCount then
    some (Char.ofNat
      (syllableBase + ((a - leadBase) * vowelCount + (b - vowelBase)) * tailCount))
  else if syllableBase ≤ a ∧ a < syllableBase + leadCount * vowelCount * tailCount
      ∧ (a - syllableBase) % tailCount = 0 ∧ tailBase < b ∧ b < tailBase + tailCount then
    some (Char.ofNat (a + (b - tailBase)))
  else none

end Hangul

/-! ## Characters -/

/-- The decomposition of a character by given single steps, at most `depth` of them below each
other. -/
def decomposeWithin (step? : Char → Option Decomposition) : Nat → Char → List Char
  | 0, c => [c]
  | depth + 1, c =>
    match step? c with
    | some step => step.target.flatMap (decomposeWithin step? depth)
    | none => [c]

/-- The full compatibility decomposition of a character.  No chain of single steps in the standard
is longer than four. -/
def decompose (c : Char) : List Char :=
  match Hangul.decompose? c with
  | some letters => letters
  | none => decomposeWithin (fun c => decompositionMap[c.toNat]?) 8 c

/-- The canonical composite of two characters. -/
def compose? (first second : Char) : Option Char :=
  match Hangul.compose? first second with
  | some syllable => some syllable
  | none => compositeMap[(first.toNat, second.toNat)]?

end Retrieval.Unicode

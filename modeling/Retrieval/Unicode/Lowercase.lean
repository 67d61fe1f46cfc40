import Retrieval.Unicode.Casing
import Retrieval.Unicode.Lowercase.Table

/-!
# Lower case

`lowercase` maps every character of a text to its lower-case form.  Two letters need more than the
table of simple mappings: `İ` becomes two characters, and the capital sigma becomes `ς` where it
ends a word and `σ` elsewhere.  A sigma ends a word when a cased letter stands before it and none
stands after it, the case-ignorable characters in between being skipped.

The scan carries one bit, whether the nearest character before it that is not case-ignorable is
cased; what follows a sigma is looked up on demand.
-/

namespace Retrieval.Unicode

/-- The lower-case form of a character that does not depend on its neighbours. -/
def lowerChar (c : Char) : List Char :=
  if c = 'İ' then ['i', '\u0307']
  else match lowerPointIn? caseRuns c.toNat with
    | some n => [Char.ofNat n]
    | none => [c]

/-- Whether the first character of the text that is not case-ignorable is cased. -/
def startsCased : List Char → Bool
  | [] => false
  | c :: rest => if isCaseIgnorable c then startsCased rest else isCased c

/-- The lower-case form of a text whose left neighbourhood is cased or not, as `afterCased` says. -/
def lowercaseFrom (afterCased : Bool) : List Char → List Char
  | [] => []
  | c :: rest =>
    let lowered :=
      if c = 'Σ' then [if afterCased && !startsCased rest then 'ς' else 'σ'] else lowerChar c
    let afterCased := if isCaseIgnorable c then afterCased else isCased c
    lowered ++ lowercaseFrom afterCased rest

/-- The lower-case form of a text. -/
def lowercase (text : List Char) : List Char :=
  lowercaseFrom false text

example : lowercase "ΟΔΟΣ ΣΑΣ İ".toList = "οδος σας i̇".toList := by decide +kernel

end Retrieval.Unicode

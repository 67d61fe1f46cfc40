import Retrieval.Text.DigitGap
import Retrieval.Text.Words
import Retrieval.Unicode.Lowercase
import Retrieval.Unicode.Normalization

/-!
# From document text to tokens

`normalize` turns the text of a document into its tokens: compatibility variants are folded, digit
groups joined, punctuation turned into blanks, letters lowered, and the rest cut into words.
-/

namespace Retrieval.Text

/-- Whether the character is punctuation: an ASCII character that is neither a letter, a digit, a
blank nor a control, or one of the two guillemets. -/
def isPunctuation (c : Char) : Bool :=
  (0x21 ≤ c.toNat && c.toNat ≤ 0x2F) || (0x3A ≤ c.toNat && c.toNat ≤ 0x40) ||
  (0x5B ≤ c.toNat && c.toNat ≤ 0x60) || (0x7B ≤ c.toNat && c.toNat ≤ 0x7E) ||
  c = '«' || c = '»'

/-- The text with a blank in place of each punctuation character. -/
def stripPunctuation (text : List Char) : List Char :=
  text.map fun c => if isPunctuation c then ' ' else c

/-- The tokens of a document's text. -/
def normalizeChars (text : List Char) : List (List Char) :=
  words (Unicode.lowercase (stripPunctuation (joinNumbers (Unicode.compatibilityCompose text))))

/-- The tokens of a document's text, as strings. -/
def normalize (text : String) : List String :=
  (normalizeChars text.toList).map String.ofList

end Retrieval.Text

import Retrieval.Unicode.Range

/-!
# White space

The characters with the property `White_Space`: what separates words, what may stand in a gap
between two digits, and what is trimmed from a line.
-/

namespace Retrieval.Unicode

/-- The code points with the property `White_Space`. -/
def whiteSpaceRanges : Ranges := [
  (0x09, 0x0D), (0x20, 0x20), (0x85, 0x85), (0xA0, 0xA0), (0x1680, 0x1680), (0x2000, 0x200A),
  (0x2028, 0x2029), (0x202F, 0x202F), (0x205F, 0x205F), (0x3000, 0x3000)]

/-- Whether the character is white space. -/
def isWhiteSpace (c : Char) : Bool :=
  Ranges.covers whiteSpaceRanges c

/-- What core calls whitespace is white space here too. -/
theorem isWhiteSpace_of_isWhitespace {c : Char} (h : c.isWhitespace = true) :
    isWhiteSpace c = true := by
  simp only [Char.isWhitespace, Bool.or_eq_true, decide_eq_true_eq] at h
  rcases h with ((rfl | rfl) | rfl) | rfl <;> decide

end Retrieval.Unicode

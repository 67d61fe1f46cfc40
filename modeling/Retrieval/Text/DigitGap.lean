import Retrieval.Unicode.DecimalDigit
import Retrieval.Unicode.WhiteSpace

/-!
# Gaps between digits

A number may be written in groups, as in `10 000`.  `joinNumbers` closes the gaps: white space
between two decimal digits goes away.  One sweep closes every gap whose digits belong to no other
gap that it closes, so that of `1 2 3` a sweep makes `12 3`; sweeps are repeated until one of them
changes nothing.  A sweep that changes the text shortens it, so the length of the text bounds their
number.
-/

namespace Retrieval.Text

open Unicode (isDecimalDigit isWhiteSpace)

/-- One sweep over a text.  `gap?` is the white space seen since a digit that may still open a
gap, the latest first and not yet written; it is absent after any other character, and after a
digit that has already closed a gap. -/
def closeGapsFrom (gap? : Option (List Char)) : List Char → List Char
  | [] => (gap?.getD []).reverse
  | c :: rest =>
    match gap? with
    | none => c :: closeGapsFrom (if isDecimalDigit c then some [] else none) rest
    | some gap =>
      if isWhiteSpace c then closeGapsFrom (some (c :: gap)) rest
      else if isDecimalDigit c then
        c :: closeGapsFrom (if gap.isEmpty then some [] else none) rest
      else gap.reverse ++ c :: closeGapsFrom none rest

/-- One sweep: of the gaps between digits, from left to right, those that share no digit with the
gap closed last. -/
def closeGaps (text : List Char) : List Char :=
  closeGapsFrom none text

/-- Sweeps a text until nothing changes, at most `limit` times. -/
def sweep : Nat → List Char → List Char
  | 0, text => text
  | limit + 1, text =>
    let next := closeGaps text
    if next = text then text else sweep limit next

/-- The text with every gap between two digits closed. -/
def joinNumbers (text : List Char) : List Char :=
  sweep text.length text

example : closeGaps "1 2 3".toList = "12 3".toList := by decide +kernel
example : joinNumbers "1 2 3, a 4\u00A05".toList = "123, a 45".toList := by decide +kernel

end Retrieval.Text

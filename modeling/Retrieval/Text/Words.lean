import Retrieval.Unicode.WhiteSpace

/-!
# Words

The words of a text are its maximal runs of characters that are not white space.  `wordsFrom`
carries the word that is being read, the latest character first; `words` starts it empty.  The
reading equations below say how each kind of character moves the scan, and are what proofs use.
-/

namespace Retrieval.Text

open Unicode (isWhiteSpace)

/-- A word that has been read to its end, unless nothing was read. -/
def closed (read : List Char) : List (List Char) :=
  if read.isEmpty then [] else [read.reverse]

/-- The words of a text in front of which the characters `read`, the latest first and none of them
white space, have already been read. -/
def wordsFrom (read : List Char) : List Char → List (List Char)
  | [] => closed read
  | c :: rest =>
    if isWhiteSpace c then closed read ++ wordsFrom [] rest
    else wordsFrom (c :: read) rest

/-- The words of a text, in order; none of them is empty. -/
def words (text : List Char) : List (List Char) :=
  wordsFrom [] text

/-- The text without the white space around it. -/
def trim (text : List Char) : List Char :=
  ((text.dropWhile isWhiteSpace).reverse.dropWhile isWhiteSpace).reverse

/-- Whether the text holds nothing but white space. -/
def isBlank (text : List Char) : Bool :=
  text.all isWhiteSpace

/-! ## Reading equations -/

@[simp]
theorem closed_nil : closed [] = [] := rfl

@[simp]
theorem closed_cons (c : Char) (read : List Char) :
    closed (c :: read) = [(c :: read).reverse] := rfl

@[simp]
theorem wordsFrom_nil (read : List Char) : wordsFrom read [] = closed read := rfl

theorem wordsFrom_cons_of_white {c : Char} (h : isWhiteSpace c = true) (read rest : List Char) :
    wordsFrom read (c :: rest) = closed read ++ wordsFrom [] rest := by
  simp [wordsFrom, h]

theorem wordsFrom_cons_of_not_white {c : Char} (h : isWhiteSpace c = false)
    (read rest : List Char) : wordsFrom read (c :: rest) = wordsFrom (c :: read) rest := by
  simp [wordsFrom, h]

example : words " one  two\u3000three".toList = ["one", "two", "three"].map (·.toList) := by
  decide +kernel

end Retrieval.Text

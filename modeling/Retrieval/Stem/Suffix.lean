/-!
# Suffixes of a word

A stemming rule looks at how a word ends, and of several endings the longest decides.  A list of
endings names a longer ending before every ending it contains, so the first that fits is the
longest.
-/

namespace Retrieval.Stem

/-- What stands before the suffix in a word that ends with it. -/
def stripSuffix? (suffix word : List Char) : Option (List Char) :=
  let stem := word.take (word.length - suffix.length)
  if word.drop (word.length - suffix.length) = suffix then some stem else none

/-- A stem and the suffix taken from it. -/
structure Cut where
  stem : List Char
  suffix : String

/-- The first of the suffixes that the word ends with, cut off. -/
def cutSuffix? (suffixes : List String) (word : List Char) : Option Cut :=
  suffixes.findSome? fun suffix => (stripSuffix? suffix.toList word).map (⟨·, suffix⟩)

/-- Whether the word ends with one of the characters. -/
def endsWith (letters : List Char) (word : List Char) : Bool :=
  word.getLast?.any letters.contains

theorem append_of_stripSuffix? {suffix word stem : List Char}
    (h : stripSuffix? suffix word = some stem) : stem ++ suffix = word := by
  unfold stripSuffix? at h
  split at h
  · rename_i hdrop
    cases h
    rw [← hdrop, List.length_drop]
    rw [show word.length - (word.length - (word.length - suffix.length))
      = word.length - suffix.length by omega, List.take_append_drop]
  · cases h

end Retrieval.Stem

import Retrieval.Archive.Storage
import Retrieval.Error
import Retrieval.Stem.Language

/-!
# Opening a saved index for queries

To answer queries one needs a saved index and the lemmatizer of the language that its terms were
stemmed in, unless another language is asked for.
-/

namespace Retrieval.Archive

/-- A saved index with what queries to it are read by. -/
structure Opened where
  index : Index
  info : Meta
  lemmatizer : Stem.Lemmatizer

/-- Why a saved index cannot be opened. -/
inductive OpenError where
  | load (reason : LoadError)
  | unknownLanguage (name : String)
  deriving Repr, DecidableEq

namespace OpenError

/-- The words for the error. -/
def message : OpenError → String
  | load reason => (Error.load reason).message
  | unknownLanguage name => s!"no stemmer for language '{name}'"

end OpenError

/-- Opens the index that is saved under a root. -/
def Opened.ofRoot (stemmer : Stem.Stemmer) (read : Path → Except FileError (List UInt8))
    (root : Path) (requested? : Option String) : Except (Failure OpenError) Opened := do
  let (index, info) ← match load read (.ofRoot root) with
    | .ok loaded => .ok loaded
    | .error (.fault fault) => .error (.fault fault)
    | .error (.error reason) => .error (.error (.load reason))
  let language := info.queryLanguage requested?
  match Stem.Lemmatizer.ofName? stemmer language with
  | some lemmatizer => return ⟨index, info, lemmatizer⟩
  | none => .error (.error (.unknownLanguage language))

end Retrieval.Archive

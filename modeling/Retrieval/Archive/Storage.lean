import Retrieval.Archive.FileSystem
import Retrieval.Archive.Meta
import Retrieval.Posting.Encoding
import Retrieval.Symbol.Encoding

/-!
# Saving and loading an index

A saved index consists of four artifacts: the table of terms, the table of documents, the postings
and the metadata.  To save is to encode all four, then to write each beside its place, and then to
move them into their places one after the other.  To load is to read the metadata first and then the
artifacts as it says, and to check that they agree.

The table of terms is loaded as a forward table, since no term is ever sought by its id.
-/

namespace Retrieval.Archive

open Retrieval.Frame (LengthError ReadError)
open Retrieval.Symbol (Table)
open Posting (Store)

/-! ## Saving -/

/-- The octets of the four artifacts. -/
structure Artifacts where
  words : List UInt8
  docs : List UInt8
  postings : List UInt8
  info : List UInt8
  deriving Repr, DecidableEq

/-- The artifacts of an index. -/
def Artifacts.encode (index : Index) (info : Meta) : Except LengthError Artifacts := do
  let words ← index.terms.encode
  let docs ← index.docs.encode
  let postings ← index.postings.encode
  return ⟨words, docs, postings, Utf8.encode info.text⟩

/-- The artifacts with their paths, in the order in which they are saved. -/
def Artifacts.placed (artifacts : Artifacts) (paths : Paths) : List (Path × List UInt8) :=
  [(paths.words, artifacts.words), (paths.docs, artifacts.docs),
    (paths.postings, artifacts.postings), (paths.info, artifacts.info)]

/-- The actions that write an artifact beside its place. -/
def stage (path : Path) (octets : List UInt8) : List FileSystem.Action :=
  let directories := match path.parent? with
    | some parent => if parent.isEmpty then [] else [.makeDirectories parent]
    | none => []
  directories ++ [.write path.staging octets]

/-- The actions that save artifacts. -/
def Artifacts.savePlan (artifacts : Artifacts) (paths : Paths) : List FileSystem.Action :=
  let placed := artifacts.placed paths
  (placed.flatMap fun (path, octets) => stage path octets) ++
    placed.map fun (path, _) => .rename path.staging path

/-- Why an index is not saved. -/
inductive SaveError where
  | length (reason : LengthError)
  | file (reason : FileError)
  deriving Repr, DecidableEq

/-- Saves an index; an index that cannot be encoded changes nothing.  The rulings are those on the
actions of the plan. -/
def save (fs : FileSystem) (paths : Paths) (index : Index) (info : Meta)
    (rulings : List FileSystem.Ruling := []) : FileSystem × Except SaveError Unit :=
  match Artifacts.encode index info with
  | .error reason => (fs, .error (.length reason))
  | .ok artifacts =>
    let (fs, outcome) := fs.performAll (artifacts.savePlan paths) rulings
    (fs, outcome.mapError .file)

/-! ## Loading -/

/-- Why an index is not loaded. -/
inductive LoadError where
  | file (reason : FileError)
  | info (reason : MetaError)
  | table (reason : ReadError)
  | postings (reason : Posting.DecodeError)
  /-- The tables are not of the sizes that the metadata states. -/
  | sizes (expectedDocs expectedTerms : UInt32) (docs terms : Nat)
  | parts (reason : Index.PartsError)
  deriving Repr, DecidableEq

/-- An error in a table, as an error of loading. -/
def tableFailure : Failure ReadError → Failure LoadError
  | .fault fault => .fault fault
  | .error reason => .error (.table reason)

/-- Loads an index whose artifacts are read by `read`. -/
def load (read : Path → Except FileError (List UInt8)) (paths : Paths) :
    Except (Failure LoadError) (Index × Meta) := do
  let file (path : Path) : Except (Failure LoadError) (List UInt8) :=
    liftError ((read path).mapError .file)
  let info ← liftError ((Meta.read (← file paths.info)).mapError LoadError.info)
  let terms ← (Table.decode .forward (← file paths.words)).mapError tableFailure
  let docs ← (Table.decode .reversible (← file paths.docs)).mapError tableFailure
  let postings ← liftError
    ((Store.decode info.representation docs.ids (← file paths.postings)).mapError
      LoadError.postings)
  if docs.size ≠ info.numDocs.toNat ∨ terms.size ≠ info.numTerms.toNat then
    .error (.error (.sizes info.numDocs info.numTerms docs.size terms.size))
  else
    let index ← liftError ((Index.ofParts terms docs postings).mapError LoadError.parts)
    return (index, info)

/-- Whether all four artifacts are there. -/
def isSaved (fs : FileSystem) (paths : Paths) : Bool :=
  [paths.words, paths.docs, paths.postings, paths.info].all fs.contains

end Retrieval.Archive

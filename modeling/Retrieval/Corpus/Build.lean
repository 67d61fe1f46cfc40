import Retrieval.CommandLine.Options
import Retrieval.Error
import Retrieval.Text.Normalize

/-!
# Building an index from files

The build command reads a corpus file, or all corpus files below a directory, and saves the index.
The language is looked up before the input, the whole corpus is read before anything is written, and
a corpus that cannot be read leaves no trace.
-/

namespace Retrieval.Corpus

open Archive (FileSystem Meta Path Paths)
open Posting (Representation)

/-- How the build command is called. -/
structure BuildSettings where
  input : Path
  output : Path
  representation : Representation
  words? : Option Path
  docs? : Option Path
  postings? : Option Path
  language : String
  deriving Repr, DecidableEq

namespace BuildSettings

/-- The options of the build command. -/
def options : List CommandLine.Flag := [
  ⟨"input", false⟩, ⟨"output", false⟩, ⟨"representation", true⟩, ⟨"words", false⟩,
  ⟨"docs", false⟩, ⟨"index", false⟩, ⟨"language", true⟩]

/-- The settings that arguments ask for. -/
def parse? (arguments : List String) : Option BuildSettings := do
  let given ← CommandLine.parse? options arguments
  let representation ← Representation.ofName? ((given.lookup "representation").getD "positional")
  return {
    input := ← given.lookup "input"
    output := ← given.lookup "output"
    representation
    words? := given.lookup "words"
    docs? := given.lookup "docs"
    postings? := given.lookup "index"
    language := (given.lookup "language").getD Meta.defaultLanguage }

/-- Where the artifacts go. -/
def paths (settings : BuildSettings) : Paths :=
  let usual := Paths.ofRoot settings.output
  { words := settings.words?.getD usual.words
    docs := settings.docs?.getD usual.docs
    postings := settings.postings?.getD usual.postings
    info := usual.info }

end BuildSettings

/-- Why nothing is built. -/
inductive BuildError where
  | unknownLanguage (name : String)
  | missingInput (path : Path)
  | stopped (reason : Error)
  deriving Repr, DecidableEq

namespace BuildError

/-- The words for the error. -/
def message : BuildError → String
  | unknownLanguage name => s!"no stemmer for language '{name}'"
  | missingInput path => s!"input {path} does not exist"
  | stopped reason => reason.message

end BuildError

/-- Whether a file of this name holds a corpus: it ends in `.jsonl`, with something before that. -/
def isCorpusName (name : List Char) : Bool :=
  6 < name.length && ".jsonl".toList.isSuffixOf name

/-- The order of places in which a directory is walked: name by name, a directory before what
follows it. -/
def placeLe : Archive.Place → Archive.Place → Bool
  | [], _ => true
  | _ :: _, [] => false
  | a :: as, b :: bs => if a = b then placeLe as bs else FileSystem.nameLe a b

/-- The contents of the corpus files below a place, in the order of the walk. -/
def filesBelow (fs : FileSystem) (place : Archive.Place) : List (List UInt8) :=
  let found := fs.nodes.filterMap fun (other, node) =>
    match node with
    | .file octets =>
      if place.isPrefixOf other && (other.getLast?).any isCorpusName then some (other, octets)
      else none
    | .directory => none
  (found.mergeSort fun a b => placeLe a.1 b.1).map Prod.snd

/-- The contents of the corpus files of an input. -/
def corpusFiles (fs : FileSystem) (input : Path) : Except BuildError (List (List UInt8)) :=
  match fs.find input, fs.locate input with
  | .ok (.file octets), _ => .ok [octets]
  | .ok .directory, .ok place => .ok (filesBelow fs place)
  | _, _ => .error (.missingInput input)

/-- Adds corpora to a builder, up to the first that cannot be read. -/
def ingestAll (analysis : Analysis) (builder : Builder) :
    List (List UInt8) → Except (Failure BuildError) Builder
  | [] => .ok builder
  | octets :: rest => do
    let ingested ← liftFault (ingest analysis builder octets)
    match ingested.outcome with
    | .ok _ => ingestAll analysis ingested.builder rest
    | .error reason => .error (.error (.stopped (.corpus reason)))

/-- The index that the settings ask for. -/
def gather (stemmer : Stem.Stemmer) (fs : FileSystem) (settings : BuildSettings) :
    Except (Failure BuildError) Index := do
  match Stem.Lemmatizer.ofName? stemmer settings.language with
  | none => .error (.error (.unknownLanguage settings.language))
  | some lemmatize =>
    let files ← liftError (corpusFiles fs settings.input)
    let builder ← ingestAll ⟨Text.normalize, lemmatize⟩ (.empty settings.representation) files
    return builder.index

/-- Builds and saves an index.  `createdAt` tells when; the rulings are those on saving. -/
def build (stemmer : Stem.Stemmer) (fs : FileSystem) (settings : BuildSettings)
    (createdAt : String) (rulings : List FileSystem.Ruling := []) :
    FileSystem × Except (Failure BuildError) Unit :=
  match gather stemmer fs settings with
  | .error reason => (fs, .error reason)
  | .ok index =>
    let (fs, outcome) :=
      Archive.save fs settings.paths index (Meta.describe index createdAt settings.language) rulings
    (fs, liftError (outcome.mapError fun reason => .stopped (.save reason)))

end Retrieval.Corpus

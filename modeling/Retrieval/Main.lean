import Retrieval.Archive.Opened
import Retrieval.Corpus.Build
import Retrieval.Shell.Session
import Retrieval.Stem.English
import Retrieval.Stem.Russian
import Std.Time.Format

/-!
# The command line

`build` makes an index from a corpus and saves it; `shell` answers queries to a saved index.  Both
are defined elsewhere, on values.  Here the files that they need are read into such a value, what
they plan to do to files is done, and lines are read and answered.
-/

namespace Retrieval

open Archive (FileSystem Opened Path Paths)

/-- Reports an error; the value is the exit code. -/
def complain (message : String) : IO UInt32 := do
  IO.eprintln ("Error: " ++ message)
  return 1

/-- Reports arguments that cannot be read; the value is the exit code. -/
def explainUsage : IO UInt32 := do
  IO.eprintln <|
    "Usage: build --input PATH --output PATH [--representation NAME] [--words PATH]\n" ++
    "             [--docs PATH] [--index PATH] [--language NAME]\n" ++
    "       shell [--index PATH] [--mode NAME] [--language NAME]"
  return 2

/-! ## Files -/

/-- Where a path leads from the working directory. -/
def resolve (path : Path) := do
  return (← IO.currentDir) / path

/-- A file system without files, with the working directory of the process. -/
def emptyHere : IO FileSystem := do
  return { workingDirectory := Path.names (← IO.currentDir).toString }

/-- The file system with those of the files that are there on the disk. -/
def snapshot (fs : FileSystem) (paths : List Path) : IO FileSystem :=
  paths.foldlM (fun fs path => do
    let place ← resolve path
    if ← place.pathExists then
      if ← place.isDir then return fs
      else return fs.install path (← IO.FS.readBinFile place).toList
    else return fs) fs

/-- The file system with an input of the build command: a file, or a directory with the corpus files
below it. -/
def survey (input : Path) : IO FileSystem := do
  let place ← resolve input
  if ← place.isDir then
    let below := (← place.walkDir).toList.map fun inner =>
      input ++ String.ofList (inner.toString.toList.drop place.toString.length)
    snapshot ((← emptyHere).perform (.makeDirectories input)).1
      (below.filter fun path => (Path.name? path).any Corpus.isCorpusName)
  else snapshot (← emptyHere) [input]

/-- Does to the disk what an action asks for. -/
def carryOut : FileSystem.Action → IO Unit
  | .makeDirectories path => do IO.FS.createDirAll (← resolve path)
  | .write path octets => do IO.FS.writeBinFile (← resolve path) ⟨octets.toArray⟩
  | .rename source target => do IO.FS.rename (← resolve source) (← resolve target)

/-! ## Commands -/

/-- The rules by which the commands stem, as far as they know them. -/
def rules? : Stem.Language → Option (List Char → List Char)
  | .english => some Stem.English.stem
  | .russian => some Stem.Russian.stem
  | _ => none

/-- The stemmers of the commands.  A language without rules is refused before it comes to them. -/
def stemmer : Stem.Stemmer := fun language => (rules? language).getD id

/-- Whether nothing is to be stemmed by rules that the commands do not know. -/
def isCovered (name : String) : Bool :=
  (Stem.Language.ofName? name).all fun language => (rules? language).isSome

/-- Reports a language without rules; the value is the exit code. -/
def refuseLanguage (name : String) : IO UInt32 :=
  complain s!"the rules for language '{name}' are not known here"

/-- The time of the clock. -/
def timestamp : IO String := do
  return (Std.Time.DateTime.ofTimestamp (← Std.Time.Timestamp.now) .UTC).toISO8601String

/-- Builds and saves an index. -/
def runBuild (arguments : List String) : IO UInt32 := do
  match Corpus.BuildSettings.parse? arguments with
  | none => explainUsage
  | some settings =>
    if !isCovered settings.language then return ← refuseLanguage settings.language
    match Corpus.gather stemmer (← survey settings.input) settings with
    | .error reason => complain (reason.message Corpus.BuildError.message)
    | .ok index =>
      let info := Archive.Meta.describe index (← timestamp) settings.language
      match Archive.Artifacts.encode index info with
      | .error reason => complain (Error.save (.length reason)).message
      | .ok artifacts =>
        (artifacts.savePlan settings.paths).forM carryOut
        return 0

/-- Reads up to the end of a line. -/
partial def readLine (input : IO.FS.Stream) (read : List UInt8) : IO (List UInt8) := do
  match (← input.read 1).toList with
  | [] => return read.reverse
  | octets =>
    let read := octets.reverse ++ read
    if octets.contains lineFeed then return read.reverse else readLine input read

/-- Answers lines until one calls for the end or there are no more. -/
partial def converse (searcher : Shell.Searcher) (input output : IO.FS.Stream) : IO UInt32 := do
  output.putStr Shell.prompt
  output.flush
  match lines (← readLine input []) with
  | [] =>
    output.putStrLn ""
    return 0
  | line :: _ =>
    match Shell.react searcher line with
    | .ok .quit => return 0
    | .ok (.print text) =>
      output.putStr text
      converse searcher input output
    | .error reason => complain (reason.message Shell.SessionError.message)

/-- Answers queries to a saved index. -/
def runShell (arguments : List String) : IO UInt32 := do
  match Shell.Settings.parse? arguments with
  | none => explainUsage
  | some settings =>
    let paths := Paths.ofRoot settings.index
    let fs ← snapshot (← emptyHere) [paths.words, paths.docs, paths.postings, paths.info]
    match Opened.ofRoot stemmer fs.fetch settings.index settings.language? with
    | .error reason => complain (reason.message Archive.OpenError.message)
    | .ok opened =>
      let language := opened.info.queryLanguage settings.language?
      if !isCovered language then return ← refuseLanguage language
      converse ⟨opened.index, opened.lemmatizer, settings.mode⟩ (← IO.getStdin) (← IO.getStdout)

end Retrieval

/-- The command that the first argument names, with the arguments after it. -/
def main (arguments : List String) : IO UInt32 :=
  match arguments with
  | "build" :: rest => Retrieval.runBuild rest
  | "shell" :: rest => Retrieval.runShell rest
  | _ => Retrieval.explainUsage

import Retrieval.CommandLine.Options
import Retrieval.Corpus.Line
import Retrieval.Number.Decimal
import Retrieval.Search
import Retrieval.Url.Percent

/-!
# The query shell

The shell prompts for a query, answers it and prompts again, until a line says `quit` or the input
ends.  Every line is answered by itself.  If a query is to blame for an error, the error is reported
and the shell goes on.  Any other error ends it early, and so does input that is not UTF-8.
-/

namespace Retrieval.Shell

open Search (Mode)

/-- How the shell is called. -/
structure Settings where
  index : String := "./index"
  mode : Mode := .boolean
  language? : Option String := none
  deriving Repr, DecidableEq

/-- The options of the shell. -/
def options : List CommandLine.Flag := [⟨"index", false⟩, ⟨"mode", true⟩, ⟨"language", true⟩]

/-- The settings that arguments ask for. -/
def Settings.parse? (arguments : List String) : Option Settings := do
  let given ← CommandLine.parse? options arguments
  let mode ← match given.lookup "mode" with
    | some name => Mode.ofName? name
    | none => some .boolean
  return ⟨(given.lookup "index").getD "./index", mode, given.lookup "language"⟩

/-- What searches are made with. -/
structure Searcher where
  index : Index
  lemmatizer : Stem.Lemmatizer
  mode : Mode

/-- The line for a found document. -/
def hitLine (hit : Search.Hit) : String :=
  let address := Url.readable hit.url
  match hit.score? with
  | some score => "r = " ++ score.decimal ++ " " ++ address ++ "\n"
  | none => address ++ "\n"

/-- What is printed for the outcome of a search. -/
def outcomeText : Search.Outcome → String
  | .emptyQuery => "Nothing to search\n"
  | .found hits =>
    let total := hits.total
    s!"Total: {total} doc(s) found\n" ++ String.join (hits.hits.map hitLine)

/-- What is printed for an error that the query is to blame for.  Any other error is handed on. -/
def reported (error : Error) : Except Error String :=
  if error.isQueryError then .ok ("Sorry, I cannot execute your query: " ++ error.message ++ "\n")
  else .error error

/-- What is printed for the outcome of a search, or for its error. -/
def printed : Except (Failure Error) Search.Outcome → Except (Failure Error) String
  | .ok outcome => .ok (outcomeText outcome)
  | .error (.error reason) => liftError (reported reason)
  | .error (.fault fault) => .error (.fault fault)

/-- What is printed for a query. -/
def answer (searcher : Searcher) (query : String) : Except (Failure Error) String :=
  printed (searcher.index.search searcher.lemmatizer query searcher.mode)

/-- What the shell prints before it reads a line. -/
def prompt : String := ">> "

/-- What a line calls for. -/
inductive Reaction where
  | quit
  | print (text : String)
  deriving Repr, DecidableEq

/-- Why a session ends before its input does. -/
inductive SessionError where
  /-- A line that is not UTF-8. -/
  | notText (reason : Utf8.DecodeError)
  /-- An error of a search that its query is not to blame for. -/
  | search (error : Error)
  deriving Repr, DecidableEq

/-- The words for the error. -/
def SessionError.message : SessionError → String
  | notText reason => reason.message
  | search error => error.message

/-- A search that fails ends the session with its error, and one that stops stops it. -/
def searchFailure : Failure Error → Failure SessionError
  | .error error => .error (.search error)
  | .fault fault => .fault fault

/-- What the octets of a line call for. -/
def react (searcher : Searcher) (line : List UInt8) : Except (Failure SessionError) Reaction := do
  let text ← liftError ((Utf8.decode line).mapError .notText)
  if Text.trim text = ['q', 'u', 'i', 't'] then return .quit
  else return .print (← (answer searcher (String.ofList text)).mapError searchFailure)

/-- What the shell prints for lines of input. -/
def transcript (searcher : Searcher) : List (List UInt8) → Except (Failure SessionError) String
  | [] => .ok (prompt ++ "\n")
  | line :: rest => do
    match ← react searcher line with
    | .quit => return prompt
    | .print text => return prompt ++ text ++ (← transcript searcher rest)

/-- What the shell prints for its input. -/
def run (searcher : Searcher) (input : List UInt8) : Except (Failure SessionError) String :=
  transcript searcher (lines input)

end Retrieval.Shell

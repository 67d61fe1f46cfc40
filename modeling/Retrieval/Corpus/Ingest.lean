import Retrieval.Corpus.Line
import Retrieval.Index.Builder
import Retrieval.Json.Value
import Retrieval.Text.Words
import Retrieval.Utf8

/-!
# Reading a corpus

A corpus holds one record a line, with the address and the content of a document.  Blank lines are
passed over.  A line that is not UTF-8 or not a record ends the reading; the documents before it
have been added.
-/

namespace Retrieval

namespace Corpus

/-- A document as a corpus holds it. -/
structure Record where
  url : String
  content : String
  deriving Repr, DecidableEq

/-- The record that a line holds. -/
def Record.parse? (line : List Char) : Option Record := do
  match ← (← Json.parse? line).fields? ["url", "content"] with
  | [some url, some content] => return ⟨← url.text?, ← content.text?⟩
  | _ => none

/-- Why a corpus cannot be read. -/
inductive CorpusError where
  | notText (reason : Utf8.DecodeError)
  | notRecord
  deriving Repr, DecidableEq

/-- What a line holds: nothing, a record or something that is neither. -/
def record? (line : List UInt8) : Except CorpusError (Option Record) :=
  match Utf8.decode line with
  | .error reason => .error (.notText reason)
  | .ok text =>
    if Text.isBlank text then .ok none
    else
      match Record.parse? text with
      | some record => .ok (some record)
      | none => .error .notRecord

/-- What reading a corpus comes to: how many documents were added, or the error that ended it, and
the builder with all documents before the error. -/
structure Ingested where
  outcome : Except CorpusError Nat
  builder : Builder

/-- Adds the records of lines to a builder, after `added` have been added. -/
def ingestLines (analysis : Analysis) (builder : Builder) (added : Nat) :
    List (List UInt8) → Except Fault Ingested
  | [] => .ok ⟨.ok added, builder⟩
  | line :: rest =>
    match record? line with
    | .error reason => .ok ⟨.error reason, builder⟩
    | .ok none => ingestLines analysis builder added rest
    | .ok (some record) => do
      let (doc?, builder) ← builder.addDocument analysis record.url record.content
      ingestLines analysis builder (if doc?.isSome then added + 1 else added) rest

/-- Adds the records of a corpus to a builder. -/
def ingest (analysis : Analysis) (builder : Builder) (octets : List UInt8) :
    Except Fault Ingested :=
  ingestLines analysis builder 0 (lines octets)

end Corpus

end Retrieval

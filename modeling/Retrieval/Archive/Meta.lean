import Retrieval.Index.Basic
import Retrieval.Json.Text
import Retrieval.Json.Value
import Retrieval.Utf8

/-!
# The metadata of a saved index

Beside its three binary artifacts a saved index has a JSON file that tells how to read them: the
layout of the postings, the language whose stems the terms are, and how many documents and terms
there must be.  `Meta.text` writes the file and `Meta.read` reads it.
-/

namespace Retrieval.Archive

open Posting (Representation)

/-- What is known about a saved index. -/
structure Meta where
  numDocs : UInt32
  numTerms : UInt32
  representation : Representation
  createdAt : String
  version : UInt32
  language : String
  deriving Repr, DecidableEq

/-- Why metadata cannot be used. -/
inductive MetaError where
  | notText (reason : Utf8.DecodeError)
  | notRecord
  /-- The artifacts are of another version. -/
  | version (found : UInt32)
  deriving Repr, DecidableEq

namespace Meta

/-- The version of the artifacts that this library writes and reads. -/
def formatVersion : UInt32 := 1

/-- The language of an index whose metadata names none. -/
def defaultLanguage : String := "english"

/-- What is known about an index when it is saved. -/
def describe (index : Index) (createdAt language : String) : Meta :=
  { numDocs := UInt32.ofNat index.docs.size
    numTerms := UInt32.ofNat index.terms.size
    representation := index.postings.representation
    createdAt, language
    version := formatVersion }

/-- The language for queries: the one asked for, or else the one of the index. -/
def queryLanguage (info : Meta) (requested? : Option String) : String :=
  requested?.getD info.language

/-- The fields of the file in their order, with their values as they are written. -/
def fields (info : Meta) : List (String × List Char) := [
  ("num_docs", Json.whole info.numDocs.toNat),
  ("num_terms", Json.whole info.numTerms.toNat),
  ("representation", Json.quote info.representation.name.toList),
  ("created_at", Json.quote info.createdAt.toList),
  ("version", Json.whole info.version.toNat),
  ("language", Json.quote info.language.toList)]

/-- The text of the file. -/
def text (info : Meta) : List Char :=
  Json.record info.fields

/-- The layout that a value names; only the name that is written counts. -/
def representation? (value : Json) : Option Representation := do
  let name ← value.variant?
  [Representation.bitset, .docSet, .positional].find? (·.name = name)

/-- The metadata that a value holds.  All fields but the language must be there. -/
def ofJson? (value : Json) : Option Meta := do
  match ← value.fields? (["num_docs", "num_terms", "representation", "created_at", "version",
      "language"]) with
  | [some docs, some terms, some representation, some createdAt, some version, language?] =>
    return {
      numDocs := ← docs.word?
      numTerms := ← terms.word?
      representation := ← representation? representation
      createdAt := ← createdAt.text?
      version := ← version.word?
      language := ← match language? with
        | some language => language.text?
        | none => some defaultLanguage }
  | _ => none

/-- The metadata that the octets of a file hold. -/
def read (octets : List UInt8) : Except MetaError Meta :=
  match Utf8.decode octets with
  | .error reason => .error (.notText reason)
  | .ok text =>
    match Json.parse? text >>= ofJson? with
    | none => .error .notRecord
    | some info => if info.version = formatVersion then .ok info else .error (.version info.version)

end Meta

end Retrieval.Archive

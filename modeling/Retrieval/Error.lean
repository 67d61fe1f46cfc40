import Retrieval.Archive.Storage
import Retrieval.Corpus.Ingest
import Retrieval.Query.Postfix
import Retrieval.Search.Outcome

/-!
# Errors

The errors that operations can meet are joined here, sorted into kinds and put into words.  A query
that cannot be read or is not answered is the fault of who asks; the other errors are found in what
was stored.
-/

namespace Retrieval

/-- The kinds of errors. -/
inductive ErrorKind where
  /-- A query that cannot be read. -/
  | malformedQuery
  /-- An artifact that cannot be read, or artifacts that do not agree. -/
  | decode
  /-- A query that an index or a mode does not answer. -/
  | unsupported
  /-- Files that are not there, not text or too long. -/
  | io
  /-- Text that is not the JSON that is due. -/
  | json
  deriving Repr, DecidableEq

/-- An error of any operation. -/
inductive Error where
  | malformed (reason : Query.SyntaxError)
  | unsupported (reason : Search.Unsupported)
  | corpus (reason : Corpus.CorpusError)
  | load (reason : Archive.LoadError)
  | save (reason : Archive.SaveError)
  | length (reason : Frame.LengthError)
  | read (reason : Frame.ReadError)
  | postings (reason : Posting.DecodeError)
  | parts (reason : Index.PartsError)
  | info (reason : Archive.MetaError)
  deriving Repr, DecidableEq

namespace Error

/-- The kind of an error in metadata, and what is said of it. -/
def ofInfo : Archive.MetaError → ErrorKind × String
  | .notText reason => (.io, reason.message)
  | .notRecord => (.json, "not a metadata record")
  | .version found =>
    let expected := Archive.Meta.formatVersion
    (.decode, s!"index format version {found} is not supported (expected {expected})")

/-- The kind of an error of loading, and what is said of it. -/
def ofLoad : Archive.LoadError → ErrorKind × String
  | .file reason => (.io, reason.message)
  | .info reason => ofInfo reason
  | .table reason => (.decode, reason.message)
  | .postings reason => (.decode, reason.message)
  | .sizes expectedDocs expectedTerms docs terms =>
    (.decode, s!"metadata expects {expectedDocs} docs and {expectedTerms} terms, " ++
      s!"artifacts hold {docs} and {terms}")
  | .parts reason => (.decode, reason.message)

/-- The kind of an error, and what is said of it. -/
def described : Error → ErrorKind × String
  | malformed reason => (.malformedQuery, reason.message)
  | unsupported reason => (.unsupported, reason.message)
  | corpus (.notText reason) => (.io, reason.message)
  | corpus .notRecord => (.json, "not a corpus record")
  | load reason => ofLoad reason
  | save (.length reason) => (.io, reason.message)
  | save (.file reason) => (.io, reason.message)
  | length reason => (.io, reason.message)
  | read reason => (.decode, reason.message)
  | postings reason => (.decode, reason.message)
  | parts reason => (.decode, reason.message)
  | info reason => ofInfo reason

/-- The kind of an error. -/
def kind (error : Error) : ErrorKind :=
  error.described.1

/-- What the messages of a kind begin with. -/
def heading : ErrorKind → String
  | .malformedQuery => "syntax error: "
  | .decode => "decode error: "
  | .unsupported => "unsupported: "
  | .io => "I/O error: "
  | .json => "JSON error: "

/-- The words for an error. -/
def message (error : Error) : String :=
  heading error.kind ++ error.described.2

/-- Whether the query is to blame, and not what was stored. -/
def isQueryError (error : Error) : Bool :=
  error.kind = .malformedQuery || error.kind = .unsupported

end Error

end Retrieval

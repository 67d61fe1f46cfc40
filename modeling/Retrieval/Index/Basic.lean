import Retrieval.Posting.Store
import Retrieval.Symbol.Table

/-!
# Indexes

An index joins a table of terms, a table of documents with their addresses, and the postings that
tell which terms occur in which documents.  The table of documents is always reversible, so that
found documents can be named, and the postings refer to no document that it does not bind.
-/

namespace Retrieval

open Posting (Representation Store)
open Retrieval.Symbol (Table)

/-- A collection of documents that can be searched. -/
structure Index where
  terms : Table
  docs : Table
  postings : Store
  deriving DecidableEq

namespace Index

/-- Why parts do not make an index. -/
inductive PartsError where
  /-- The table of documents cannot be asked for an address. -/
  | forwardDocuments
  /-- The postings refer to a document without an address. -/
  | unknownDocument (doc : UInt32)
  deriving Repr, DecidableEq

namespace PartsError

/-- The words for the error. -/
def message : PartsError → String
  | forwardDocuments => "document table must be reversible"
  | unknownDocument doc => s!"postings refer to unknown document {doc}"

end PartsError

/-- The index without documents. -/
def empty (representation : Representation) : Index :=
  ⟨.empty .reversible, .empty .reversible, .empty representation⟩

/-- The bound documents. -/
def docIds (index : Index) : IdSet :=
  IdSet.ofList index.docs.ids

/-- The index of parts that agree.  Every bound document becomes known to the postings. -/
def ofParts (terms docs : Table) (postings : Store) : Except PartsError Index :=
  match docs.mode with
  | .forward => .error .forwardDocuments
  | .reversible =>
    let known := IdSet.ofList docs.ids
    match (postings.referenced.diff known).toList with
    | orphan :: _ => .error (.unknownDocument orphan)
    | [] => .ok ⟨terms, docs, known.toList.foldl Store.register postings⟩

/-- The id of a term. -/
def termId (index : Index) (term : String) : Option UInt32 :=
  index.terms.lookup term

/-- The address of a document, if it is bound. -/
def url? (index : Index) (doc : UInt32) : Except Fault (Option String) :=
  index.docs.reverse? doc

end Index

end Retrieval

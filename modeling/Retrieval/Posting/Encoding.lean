import Retrieval.Frame.Reader
import Retrieval.Frame.Writer
import Retrieval.Posting.Store

/-!
# The file of a posting store

All layouts share one format: the count of terms; for each term its id and the count of its
documents; for each document its id, the count of positions and the positions.  Layouts without
positions count none.  A store is read back by recording what the file lists.
-/

namespace Retrieval.Posting

open Retrieval.Frame (LengthError ReadError Reader)

/-- What the file lists for a term: its documents with the positions in each. -/
abbrev Listing := List (UInt32 × List (UInt32 × List UInt32))

/-- Why a posting file cannot be read. -/
inductive DecodeError where
  | frame (reason : ReadError)
  /-- A layout without positions was asked to read some. -/
  | unexpectedPositions (term : UInt32) (representation : Representation)
  deriving Repr, DecidableEq

namespace DecodeError

/-- The words for the error. -/
def message : DecodeError → String
  | frame reason => reason.message
  | unexpectedPositions term representation =>
    let representation := representation.name
    s!"term {term} carries positions in a {representation} store"

end DecodeError

namespace Store

/-! ## Writing -/

/-- What the file of a store lists. -/
def listing : Store → Listing
  | bitset rows =>
    rows.rows.entries.map fun entry =>
      (entry.1, (rows.docsFor entry.1).toList.map fun doc => (doc, []))
  | docSet rows =>
    rows.entries.map fun entry => (entry.1, entry.2.toList.map fun doc => (doc, []))
  | positional rows => rows.entries.map fun entry => (entry.1, entry.2.entries)

/-- The frames of the documents of a term. -/
def encodeDocuments : List (UInt32 × List UInt32) → Except LengthError (List UInt8)
  | [] => .ok []
  | (doc, positions) :: rest => do
    let head ← Frame.count positions.length
    let tail ← encodeDocuments rest
    return Frame.word doc ++ head ++ positions.flatMap Frame.word ++ tail

/-- The frames of terms. -/
def encodeTerms : Listing → Except LengthError (List UInt8)
  | [] => .ok []
  | (term, documents) :: rest => do
    let head ← Frame.count documents.length
    let body ← encodeDocuments documents
    let tail ← encodeTerms rest
    return Frame.word term ++ head ++ body ++ tail

/-- The file of a store. -/
def encode (store : Store) : Except LengthError (List UInt8) := do
  let listing := store.listing
  let head ← Frame.count listing.length
  let tail ← encodeTerms listing
  return head ++ tail

/-! ## Reading -/

/-- Reads `count` positions. -/
def decodePositions : (count : Nat) → Reader → Except ReadError (List UInt32 × Reader)
  | 0, reader => .ok ([], reader)
  | count + 1, reader => do
    let (position, reader) ← reader.readWord "position"
    let (positions, reader) ← decodePositions count reader
    return (position :: positions, reader)

/-- A frame read as part of a posting file. -/
def framed {α : Type} (result : Except ReadError α) : Except DecodeError α :=
  result.mapError .frame

/-- Reads `count` documents of a term into a store. -/
def decodeDocuments (term : UInt32) :
    (count : Nat) → Store → Reader → Except DecodeError (Store × Reader)
  | 0, store, reader => .ok (store, reader)
  | count + 1, store, reader => do
    let (doc, reader) ← framed (reader.readWord "document id")
    let (length, reader) ← framed (reader.readCount "position count" 4)
    if 0 < length ∧ store.representation ≠ .positional then
      .error (.unexpectedPositions term store.representation)
    else
      let (positions, reader) ← framed (decodePositions length reader)
      decodeDocuments term count (store.record term doc positions) reader

/-- Reads `count` terms into a store. -/
def decodeTerms : (count : Nat) → Store → Reader → Except DecodeError (Store × Reader)
  | 0, store, reader => .ok (store, reader)
  | count + 1, store, reader => do
    let (term, reader) ← framed (reader.readWord "term id")
    let (documents, reader) ← framed (reader.readCount "posting document count" 8)
    let (store, reader) ← decodeDocuments term documents store reader
    decodeTerms count store reader

/-- Reads a store in the given layout, with the given documents registered first. -/
def decode (representation : Representation) (documents : List UInt32) (octets : List UInt8) :
    Except DecodeError Store := do
  let registered := documents.foldl register (empty representation)
  let (count, reader) ← framed ((⟨octets, 0⟩ : Reader).readCount "posting term count" 8)
  let (store, reader) ← decodeTerms count registered reader
  framed reader.finish
  return store

end Store

end Retrieval.Posting

import Retrieval.Frame.Reader
import Retrieval.Frame.Writer
import Retrieval.Symbol.Table

/-!
# The file of a symbol table

A table is written as the count of its entries and, in the order of insertion, each key as a string
and its id as a word.  It is read back by inserting the entries one after the other, so a table
that is read in another mode, or from a file with repeated keys or ids, obeys the rules of its mode.
-/

namespace Retrieval.Symbol.Table

open Retrieval.Frame (LengthError ReadError Reader)

/-- The frames of entries. -/
def encodeEntries : List (String × UInt32) → Except LengthError (List UInt8)
  | [] => .ok []
  | (key, id) :: rest => do
    let head ← Frame.string key
    let tail ← encodeEntries rest
    return head ++ Frame.word id ++ tail

/-- The file of a table. -/
def encode (table : Table) : Except LengthError (List UInt8) := do
  let head ← Frame.count table.size
  let tail ← encodeEntries table.entries
  return head ++ tail

/-- Reads `count` entries into a table. -/
def decodeEntries : (count : Nat) → Table → Reader → Except (Failure ReadError) (Table × Reader)
  | 0, table, reader => .ok (table, reader)
  | count + 1, table, reader => do
    let (key, reader) ← liftError (reader.readString "symbol key")
    let (id, reader) ← liftError (reader.readWord "symbol id")
    let (_, table) ← liftFault (table.insert key id)
    decodeEntries count table reader

/-- The octets that an entry takes at least: the count of its key and its id. -/
def leastEntrySize : Nat := 8

/-- Reads a table in the given mode. -/
def decode (mode : Mode) (octets : List UInt8) : Except (Failure ReadError) Table := do
  let (count, reader) ← liftError
    ((⟨octets, 0⟩ : Reader).readCount "symbol entry count" leastEntrySize)
  let (table, reader) ← decodeEntries count (empty mode) reader
  liftError reader.finish
  return table

end Retrieval.Symbol.Table

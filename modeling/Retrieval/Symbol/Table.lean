import Retrieval.Fault

/-!
# Symbol tables

A symbol table binds strings, the keys, to 32-bit ids.  A key keeps the id that it was bound to
first.  A *forward* table binds whatever id is proposed.  A *reversible* table keeps ids apart: it
takes the least id from the proposed one on that is free, and can be asked for the key of an id.
-/

namespace Retrieval.Symbol

/-- How a table treats the ids proposed to it. -/
inductive Mode where
  | forward
  | reversible
  deriving Repr, DecidableEq

/-- Bindings of keys to ids. -/
structure Table where
  mode : Mode
  /-- Keys with their ids, in the order of insertion. -/
  entries : List (String × UInt32)
  /-- Ids with their keys, in ascending order of ids; empty in a forward table. -/
  byId : List (UInt32 × String)
  deriving Repr, DecidableEq

namespace Table

/-- The table without bindings. -/
def empty (mode : Mode) : Table :=
  ⟨mode, [], []⟩

/-- The number of bound keys. -/
def size (table : Table) : Nat :=
  table.entries.length

/-- The id of a key. -/
def lookup (table : Table) (key : String) : Option UInt32 :=
  table.entries.lookup key

/-- The least id from `id` on that none of the ascending pairs is bound to. -/
def leastFree? (id : UInt32) : List (UInt32 × String) → Option UInt32
  | [] => some id
  | (bound, _) :: rest =>
    if bound < id then leastFree? id rest
    else if bound = id then
      if id.toNat + 1 < UInt32.size then leastFree? (id + 1) rest else none
    else some id

/-- Puts a pair into its place among ascending pairs. -/
def insertById (id : UInt32) (key : String) : List (UInt32 × String) → List (UInt32 × String)
  | [] => [(id, key)]
  | (bound, other) :: rest =>
    if id < bound then (id, key) :: (bound, other) :: rest
    else (bound, other) :: insertById id key rest

/-- Binds a key and yields its id with the table after that.  A key that is bound already changes
nothing. -/
def insert (table : Table) (key : String) (proposed : UInt32) : Except Fault (UInt32 × Table) :=
  match table.lookup key with
  | some id => .ok (id, table)
  | none =>
    match table.mode with
    | .forward => .ok (proposed, { table with entries := table.entries ++ [(key, proposed)] })
    | .reversible =>
      match leastFree? proposed table.byId with
      | none => .error .idsExhausted
      | some id =>
        .ok (id, { table with
          entries := table.entries ++ [(key, id)], byId := insertById id key table.byId })

/-- The key of an id, if it is bound; only a reversible table can be asked. -/
def reverse? (table : Table) (id : UInt32) : Except Fault (Option String) :=
  match table.mode with
  | .forward => .error .noReverseView
  | .reversible => .ok (table.byId.lookup id)

/-- The key of an id that is bound. -/
def reverse (table : Table) (id : UInt32) : Except Fault String := do
  match ← table.reverse? id with
  | some key => return key
  | none => .error (.unboundId id)

/-- The bound ids of a reversible table, ascending. -/
def ids (table : Table) : List UInt32 :=
  table.byId.map Prod.fst

/-- The least id above every bound id, or the greatest id if there is none. -/
def nextFree (table : Table) : UInt32 :=
  match (table.entries.map Prod.snd).max? with
  | none => 0
  | some greatest => if greatest.toNat + 1 < UInt32.size then greatest + 1 else greatest

end Table

end Retrieval.Symbol

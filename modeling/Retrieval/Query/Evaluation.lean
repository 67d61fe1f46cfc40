import Retrieval.Ids.Set
import Retrieval.Posting.BitRow
import Retrieval.Query.Tree

/-!
# Evaluation of query trees

A tree is evaluated over the sets of documents that its terms stand for: `AND` intersects, `OR`
unites, and negation takes what is left of the universe.  The same is done with bit rows, where
only rows of one width combine, and where to read the row of a term may stop.
-/

namespace Retrieval.Query.Tree

open Posting (BitRow)

/-- The documents that satisfy a tree, given those of each term and the universe. -/
def evalSet (find : String → IdSet) (all : IdSet) : Tree → IdSet
  | term value => find value
  | and left right => (left.evalSet find all).inter (right.evalSet find all)
  | or left right => (left.evalSet find all).union (right.evalSet find all)
  | not child => all.diff (child.evalSet find all)

/-- The row of the documents that satisfy a tree, where that of each term is read, given that of the
universe. -/
def evalRows (read : String → Except Fault BitRow) (all : BitRow) : Tree → Except Fault BitRow
  | term value => read value
  | and left right => do
    (← left.evalRows read all).inter (← right.evalRows read all)
  | or left right => do
    (← left.evalRows read all).union (← right.evalRows read all)
  | not child => do
    (← child.evalRows read all).complement all

/-- The row of the documents that satisfy a tree, given that of each term and that of the
universe. -/
def evalRow (find : String → BitRow) (all : BitRow) (tree : Tree) : Except Fault BitRow :=
  tree.evalRows (fun term => .ok (find term)) all

section

variable (find : String → BitRow) (all : BitRow) (left right child : Tree)

theorem evalRow_and : (left.and right).evalRow find all
    = (do (← left.evalRow find all).inter (← right.evalRow find all)) := rfl

theorem evalRow_or : (left.or right).evalRow find all
    = (do (← left.evalRow find all).union (← right.evalRow find all)) := rfl

theorem evalRow_not : child.not.evalRow find all
    = (do (← child.evalRow find all).complement all) := rfl

end

end Retrieval.Query.Tree

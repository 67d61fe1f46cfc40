import Retrieval.Error
import Retrieval.Index.Basic
import Retrieval.Query.Evaluation
import Retrieval.Query.Lexer
import Retrieval.Rank.Ranking

/-!
# Search

A search answers a query over an index in one of two modes.  A boolean search evaluates the tree of
the query and lists every document that satisfies it, descending by id if the postings are bit rows
and ascending otherwise.  A ranked search takes its query as the set of its terms, so it allows
neither `OR` nor negation, and lists the ten best documents that hold all of them.

A query without terms asks for nothing, which is not the same as a query that nothing answers.
-/

namespace Retrieval

open Query (Operator SyntaxError Token Tree)

namespace Search

/-- How many documents a ranked search lists. -/
def limit : Nat := 10

/-- A found document with its address. -/
def hit (index : Index) (score? : Option Binary64) (doc : UInt32) : Except Fault Hit := do
  return ⟨doc, ← index.docs.reverse doc, score?⟩

/-- The documents of a term. -/
def docsOf (index : Index) (term : String) : IdSet :=
  match index.termId term with
  | some id => index.postings.docsFor id
  | none => .empty

/-- Reads the row of a term. -/
def rowOf (index : Index) (rows : Posting.Bitset) (term : String) :
    Except Fault Posting.BitRow :=
  match index.termId term with
  | some id => rows.readRow id
  | none => .ok rows.emptyRow

/-- The documents that satisfy a tree, in the order in which they are listed. -/
def satisfying (index : Index) (tree : Tree) : Except Fault (List UInt32) :=
  match index.postings with
  | .bitset rows => (tree.evalRows (rowOf index rows) rows.fullRow).map rows.decode
  | _ => .ok (tree.evalSet (docsOf index) index.docIds).toList

/-- The answer to a boolean query. -/
def boolean (index : Index) (tree : Tree) : Except Fault Hits := do
  let hits ← (← satisfying index tree).mapM (hit index none)
  return ⟨hits.length, hits⟩

/-- The documents that hold all terms, the best first.  A term that the index does not know occurs
in none. -/
def rankedHits (index : Index) (store : Posting.Positions) (terms : List String) :
    Except Fault Hits := do
  match terms.mapM index.termId with
  | none => return ⟨0, []⟩
  | some ids =>
    let scored ← Rank.rank store ids
    let hits ← (scored.take limit).mapM fun best => hit index (some best.score) best.doc
    return ⟨scored.length, hits⟩

/-- The first operator that a ranked query may not hold. -/
def barredOperator? (tokens : List Token) : Option Operator :=
  tokens.findSome? fun
    | .operator .or => some .or
    | .operator .not => some .not
    | _ => none

/-- The answer to a ranked query. -/
def ranked (index : Index) (tokens : List Token) : Except (Failure Error) Outcome := do
  match barredOperator? tokens with
  | some op => .error (.error (.unsupported (.operator op)))
  | none =>
    let _ ← liftError ((Query.toPostfix tokens).mapError Error.malformed)
    match Query.distinctTerms tokens, index.postings with
    | [], _ => return .emptyQuery
    | terms, .positional store => return .found (← liftFault (rankedHits index store terms))
    | _, store => .error (.error (.unsupported (.layout store.representation)))

/-- The answer to the tokens of a query. -/
def answer (index : Index) (mode : Mode) (tokens : List Token) :
    Except (Failure Error) Outcome := do
  if tokens.isEmpty then return .emptyQuery
  else
    match mode with
    | .boolean =>
      match ← liftError ((Tree.parse? tokens).mapError Error.malformed) with
      | some tree => return .found (← liftFault (boolean index tree))
      | none => return .emptyQuery
    | .ranked => ranked index tokens

end Search

namespace Index

/-- The answer to a query. -/
def search (index : Index) (lemmatizer : Stem.Lemmatizer) (query : String) (mode : Search.Mode) :
    Except (Failure Error) Search.Outcome :=
  Search.answer index mode (Query.tokenize lemmatizer query)

end Index

namespace Query

/-- The printed form of a query with as few parentheses as possible; empty for a query without
terms. -/
def canonical (lemmatizer : Stem.Lemmatizer) (query : String) : Except SyntaxError String := do
  match ← Tree.parse? (tokenize lemmatizer query) with
  | some tree => return tree.text
  | none => return ""

end Query

end Retrieval

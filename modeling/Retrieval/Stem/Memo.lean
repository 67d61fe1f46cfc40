import Retrieval.Stem.Language

/-!
# A memo of lemmas

Stemming a token again is avoided by remembering its lemma under the token as it was given.  A call
has three steps, a lookup, the computation and an insertion, and the first and the last may be
separated by the steps of other calls on the same memo.
-/

namespace Retrieval.Stem

/-- Lemmas by token, in the order in which the tokens were first remembered. -/
structure Memo where
  entries : List (String × String) := []
  deriving Repr, DecidableEq

namespace Memo

/-- The remembered lemma of a token. -/
def get? (memo : Memo) (token : String) : Option String :=
  memo.entries.lookup token

/-- How many tokens are remembered. -/
def size (memo : Memo) : Nat :=
  memo.entries.length

/-- Remembers the lemma of a token, in place of an earlier one. -/
def insert (memo : Memo) (token stemmed : String) : Memo :=
  if (memo.get? token).isSome then
    ⟨memo.entries.map fun entry => if entry.1 = token then (token, stemmed) else entry⟩
  else ⟨memo.entries ++ [(token, stemmed)]⟩

/-- The lemma of a token and the memo after asking for it. -/
def lemmatize (lemmatizer : Lemmatizer) (memo : Memo) (token : String) : String × Memo :=
  match memo.get? token with
  | some known => (known, memo)
  | none =>
    let computed := lemmatizer token
    (computed, memo.insert token computed)

/-- The memo after asking for tokens one after the other. -/
def afterAll (lemmatizer : Lemmatizer) (memo : Memo) (tokens : List String) : Memo :=
  tokens.foldl (fun memo token => (memo.lemmatize lemmatizer token).2) memo

end Memo

end Retrieval.Stem

/-!
# Query tokens

A query is a sequence of terms, operators and parentheses.  Operators bind with different strength,
negation the strongest and `OR` the weakest; terms and parentheses have strength 0, below all
operators, so a parenthesis that waits for its partner holds every operator back.
-/

namespace Retrieval.Query

/-- The operators of the query language. -/
inductive Operator where
  | and
  | or
  | not
  deriving Repr, DecidableEq

namespace Operator

/-- How strongly an operator binds. -/
def strength : Operator → Nat
  | not => 3
  | and => 2
  | or => 1

/-- How an operator is written. -/
def symbol : Operator → String
  | and => "AND"
  | or => "OR"
  | not => "!"

end Operator

/-- A token of a query. -/
inductive Token where
  | term (value : String)
  | operator (op : Operator)
  | leftParen
  | rightParen
  deriving Repr, DecidableEq

namespace Token

/-- How strongly a token binds. -/
def strength : Token → Nat
  | operator op => op.strength
  | _ => 0

/-- Whether the token is an operator. -/
def isOperator : Token → Bool
  | operator _ => true
  | _ => false

/-- The value of a term. -/
def term? : Token → Option String
  | term value => some value
  | _ => none

end Token

end Retrieval.Query

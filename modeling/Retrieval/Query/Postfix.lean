import Retrieval.Query.Token

/-!
# Postfix order

`toPostfix` brings the tokens of a query from infix into postfix order: an operator follows its
operands, and no parenthesis remains.  Terms pass at once.  An operator waits on a stack until an
operator that binds no stronger comes, its parenthesis closes or the query ends; negation waits
behind negation, since it stands before its operand.
-/

namespace Retrieval.Query

/-- Why a query is refused. -/
inductive SyntaxError where
  /-- A right parenthesis without a partner. -/
  | unmatchedRight
  /-- A left parenthesis without a partner. -/
  | unmatchedLeft
  /-- An operator that lacks an operand. -/
  | missingOperand (op : Operator)
  /-- Operands that no operator joins. -/
  | missingOperator
  /-- A parenthesis where postfix order is due. -/
  | strayParenthesis
  deriving Repr, DecidableEq

namespace SyntaxError

/-- The words for the error. -/
def message : SyntaxError → String
  | unmatchedRight => "unmatched ')'"
  | unmatchedLeft => "unmatched '('"
  | missingOperand op =>
    let op := op.symbol
    s!"operator '{op}' without operands"
  | missingOperator => "operands without an operator between them"
  | strayParenthesis => "parenthesis in postfix input"

end SyntaxError

/-- What waits on the stack. -/
inductive Waiting where
  | paren
  | operator (op : Operator)
  deriving Repr, DecidableEq

/-- Whether what waits makes way for an operator. -/
def Waiting.yieldsTo (op : Operator) : Waiting → Bool
  | paren => false
  | operator top => if op = .not then op.strength < top.strength else op.strength ≤ top.strength

/-- The token that leaves the stack for the output. -/
def Waiting.token? : Waiting → Option Token
  | paren => none
  | operator op => some (.operator op)

/-- What leaves the stack at a right parenthesis, and what stays below its partner. -/
def closeGroup? : List Waiting → Option (List Token × List Waiting)
  | [] => none
  | .paren :: rest => some ([], rest)
  | .operator op :: rest =>
    (closeGroup? rest).map fun (released, kept) => (.operator op :: released, kept)

/-- What leaves the stack at the end. -/
def releaseAll : List Waiting → Except SyntaxError (List Token)
  | [] => .ok []
  | .paren :: _ => .error .unmatchedLeft
  | .operator op :: rest => (releaseAll rest).map (.operator op :: ·)

/-- Brings tokens into postfix order, with the given stack. -/
def postfixFrom (waiting : List Waiting) : List Token → Except SyntaxError (List Token)
  | [] => releaseAll waiting
  | .term value :: rest => (postfixFrom waiting rest).map (.term value :: ·)
  | .leftParen :: rest => postfixFrom (.paren :: waiting) rest
  | .rightParen :: rest =>
    match closeGroup? waiting with
    | none => .error .unmatchedRight
    | some (released, kept) => (postfixFrom kept rest).map (released ++ ·)
  | .operator op :: rest =>
    let released := (waiting.takeWhile (·.yieldsTo op)).filterMap Waiting.token?
    let kept := waiting.dropWhile (·.yieldsTo op)
    (postfixFrom (.operator op :: kept) rest).map (released ++ ·)

/-- The tokens of a query in postfix order. -/
def toPostfix (tokens : List Token) : Except SyntaxError (List Token) :=
  postfixFrom [] tokens

end Retrieval.Query

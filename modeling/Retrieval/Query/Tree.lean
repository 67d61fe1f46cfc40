import Retrieval.Distinct
import Retrieval.Query.Postfix

/-!
# Query trees

A query means a tree of conjunctions, disjunctions and negations over terms.  `Tree.ofPostfix?`
builds it from tokens in postfix order with a stack of operands.  A tree is printed in infix form
with as few parentheses as precedence allows: around the operand of a negation, and around an
operand that binds weaker than its operator.
-/

namespace Retrieval.Query

/-- A query as a tree. -/
inductive Tree where
  | term (value : String)
  | and (left right : Tree)
  | or (left right : Tree)
  | not (child : Tree)
  deriving Repr, DecidableEq

namespace Tree

/-! ## Building -/

/-- The stack after a token in postfix order, the top first. -/
def push (stack : List Tree) : Token → Except SyntaxError (List Tree)
  | .term value => .ok (.term value :: stack)
  | .operator .not =>
    match stack with
    | child :: rest => .ok (.not child :: rest)
    | _ => .error (.missingOperand .not)
  | .operator .and =>
    match stack with
    | right :: left :: rest => .ok (.and left right :: rest)
    | _ => .error (.missingOperand .and)
  | .operator .or =>
    match stack with
    | right :: left :: rest => .ok (.or left right :: rest)
    | _ => .error (.missingOperand .or)
  | .leftParen | .rightParen => .error .strayParenthesis

/-- The tree of tokens in postfix order; there is none without tokens. -/
def ofPostfix? (tokens : List Token) : Except SyntaxError (Option Tree) := do
  match ← tokens.foldlM push [] with
  | [] => return none
  | [root] => return some root
  | _ => .error .missingOperator

/-- The tree of tokens in infix order. -/
def parse? (tokens : List Token) : Except SyntaxError (Option Tree) := do
  ofPostfix? (← toPostfix tokens)

/-! ## Views -/

/-- The operator at the root. -/
def operator? : Tree → Option Operator
  | term _ => none
  | and _ _ => some .and
  | or _ _ => some .or
  | not _ => some .not

/-- The values of the leaves, from left to right. -/
def leaves : Tree → List String
  | term value => [value]
  | and left right => left.leaves ++ right.leaves
  | or left right => left.leaves ++ right.leaves
  | not child => child.leaves

/-- The values of the leaves, each where it stands first. -/
def terms (tree : Tree) : List String :=
  distinct tree.leaves

/-- The nodes in prefix order: an operator, then its operands from left to right. -/
def preorder : Tree → List Token
  | term value => [.term value]
  | and left right => .operator .and :: (left.preorder ++ right.preorder)
  | or left right => .operator .or :: (left.preorder ++ right.preorder)
  | not child => .operator .not :: child.preorder

/-- The nodes in postfix order: the operands from left to right, then the operator. -/
def postorder : Tree → List Token
  | term value => [.term value]
  | and left right => left.postorder ++ right.postorder ++ [.operator .and]
  | or left right => left.postorder ++ right.postorder ++ [.operator .or]
  | not child => child.postorder ++ [.operator .not]

/-! ## Printing -/

/-- Whether a tree needs parentheses as an operand of the operator. -/
def needsParens (op : Operator) : Tree → Bool
  | and _ _ => Operator.and.strength < op.strength
  | or _ _ => Operator.or.strength < op.strength
  | _ => false

/-- A text in parentheses, if they are wanted. -/
def enclose (wanted : Bool) (text : List Char) : List Char :=
  if wanted then '(' :: (text ++ [')']) else text

/-- The characters of the printed form. -/
def chars : Tree → List Char
  | term value => value.toList
  | not child => '!' :: enclose true child.chars
  | and left right =>
    enclose (left.needsParens .and) left.chars ++ [' ', 'A', 'N', 'D', ' '] ++
      enclose (right.needsParens .and) right.chars
  | or left right =>
    enclose (left.needsParens .or) left.chars ++ [' ', 'O', 'R', ' '] ++
      enclose (right.needsParens .or) right.chars

/-- The printed form. -/
def text (tree : Tree) : String :=
  String.ofList tree.chars

end Tree

end Retrieval.Query

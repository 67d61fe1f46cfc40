import Mathlib.Tactic.Common
import Retrieval.Proofs.Query.Conservation

/-!
# What the stack of operands holds

Tokens in postfix order are read as a row of trees: what has been read is the listing of the trees
on the stack, one behind the other, and of no other trees (`foldlM_push_eq_ok`).  So the stack is
told by the tokens alone, and where a run stops is told by the row in front of the token that stops
it (`foldlM_push_eq_error`).

A tree is built if the row is that one tree, and none if it is empty.  There are three ways to fail
and no other (`Misfit`): too few trees stand before an operator, a parenthesis comes behind a row,
or the row of all tokens has several trees.
-/

namespace Retrieval.Query

/-- How many operands an operator takes. -/
def Operator.arity : Operator → Nat
  | .not => 1
  | .and | .or => 2

namespace Tree

/-! ## Rows of trees -/

/-- The listing of trees puts them on the stack, the last on top. -/
lemma foldlM_push_flatMap (trees stack : List Tree) (rest : List Token) :
    (trees.flatMap postorder ++ rest).foldlM push stack
      = rest.foldlM push (trees.reverse ++ stack) := by
  induction trees generalizing stack with
  | nil => rfl
  | cons tree others ih =>
    rw [List.flatMap_cons, List.append_assoc, foldlM_push_postorder, ih, List.reverse_cons,
      List.append_assoc, List.singleton_append]

/-- **The stack is told by the tokens.**  It holds the trees that the tokens list, one behind the
other; there is one such row of trees at most. -/
theorem foldlM_push_eq_ok {tokens : List Token} {stack : List Tree} :
    tokens.foldlM push [] = .ok stack ↔ tokens = stack.reverse.flatMap postorder := by
  constructor
  · exact fun h => (stackPostorder_foldlM_push h).symm
  · rintro rfl
    have hrun := foldlM_push_flatMap stack.reverse [] []
    rwa [List.append_nil, List.reverse_reverse, List.append_nil] at hrun

/-- A token that finds too few operands, or that is no node. -/
lemma push_eq_error {stack : List Tree} {token : Token} {reason : SyntaxError} :
    push stack token = .error reason ↔
      (∃ op, token = .operator op ∧ reason = .missingOperand op ∧ stack.length < op.arity) ∨
        token.isParenthesis = true ∧ reason = .strayParenthesis := by
  cases token with
  | term value => simp [push, Token.isParenthesis]
  | leftParen | rightParen => simp [push, Token.isParenthesis, eq_comm]
  | operator op =>
    cases op with
    | not => rcases stack with _ | ⟨child, rest⟩ <;>
        simp [push, Operator.arity, Token.isParenthesis, eq_comm]
    | and | or => rcases stack with _ | ⟨right, _ | ⟨left, rest⟩⟩ <;>
        simp [push, Operator.arity, Token.isParenthesis, eq_comm]

/-- **Where a run stops**: at a token that finds the wrong trees in front of it. -/
lemma foldlM_push_eq_error {tokens : List Token} {reason : SyntaxError} :
    tokens.foldlM push [] = .error reason ↔
      ∃ (trees : List Tree) (token : Token) (rest : List Token),
        tokens = trees.flatMap postorder ++ token :: rest ∧
        push trees.reverse token = .error reason := by
  rw [foldlM_eq_error]
  constructor
  · rintro ⟨front, token, rest, stack, rfl, hfront, hstop⟩
    obtain rfl := foldlM_push_eq_ok.mp hfront
    exact ⟨stack.reverse, token, rest, rfl, by rwa [List.reverse_reverse]⟩
  · rintro ⟨trees, token, rest, rfl, hstop⟩
    refine ⟨_, token, rest, trees.reverse, rfl, ?_, hstop⟩
    rw [foldlM_push_eq_ok, List.reverse_reverse]

/-! ## Tokens that list no tree -/

/-- Why tokens are the listing of no tree. -/
inductive Misfit : List Token → SyntaxError → Prop
  /-- Too few trees stand before an operator. -/
  | missingOperand (trees : List Tree) (op : Operator) (rest : List Token) :
    trees.length < op.arity →
    Misfit (trees.flatMap postorder ++ .operator op :: rest) (.missingOperand op)
  /-- A parenthesis stands among the nodes. -/
  | strayParenthesis (trees : List Tree) (token : Token) (rest : List Token) :
    token.isParenthesis = true →
    Misfit (trees.flatMap postorder ++ token :: rest) .strayParenthesis
  /-- Several trees stand side by side. -/
  | missingOperator (trees : List Tree) :
    1 < trees.length → Misfit (trees.flatMap postorder) .missingOperator

lemma misfit_of_foldlM_push {tokens : List Token} {reason : SyntaxError}
    (h : tokens.foldlM push [] = .error reason) : Misfit tokens reason := by
  obtain ⟨trees, token, rest, rfl, hstop⟩ := foldlM_push_eq_error.mp h
  rcases push_eq_error.mp hstop with ⟨op, rfl, rfl, hfew⟩ | ⟨hparenthesis, rfl⟩
  · rw [List.length_reverse] at hfew
    exact .missingOperand trees op rest hfew
  · exact .strayParenthesis trees token rest hparenthesis

/-- **Building fails as the tokens are misfit.** -/
theorem ofPostfix?_eq_error {tokens : List Token} {reason : SyntaxError} :
    ofPostfix? tokens = .error reason ↔ Misfit tokens reason := by
  rw [ofPostfix?, bind_eq_error]
  constructor
  · rintro (hstop | ⟨stack, hrun, hroot⟩)
    · exact misfit_of_foldlM_push hstop
    · obtain rfl := foldlM_push_eq_ok.mp hrun
      rcases stack with _ | ⟨last, _ | ⟨other, rest⟩⟩
      · cases hroot
      · cases hroot
      · cases hroot
        exact .missingOperator _ (by simp)
  · intro h
    cases h with
    | missingOperand trees op rest hfew =>
      refine Or.inl (foldlM_push_eq_error.mpr ⟨trees, _, rest, rfl, push_eq_error.mpr ?_⟩)
      exact Or.inl ⟨op, rfl, rfl, by rwa [List.length_reverse]⟩
    | strayParenthesis trees token rest hparenthesis =>
      refine Or.inl (foldlM_push_eq_error.mpr ⟨trees, token, rest, rfl, push_eq_error.mpr ?_⟩)
      exact Or.inr ⟨hparenthesis, rfl⟩
    | missingOperator trees hmany =>
      refine Or.inr ⟨trees.reverse, foldlM_push_eq_ok.mpr (by rw [List.reverse_reverse]), ?_⟩
      rw [← List.length_reverse] at hmany
      generalize trees.reverse = stack at hmany ⊢
      rcases stack with _ | ⟨last, _ | ⟨other, rest⟩⟩
      · simp at hmany
      · simp at hmany
      · rfl

/-- **Building inverts listing, and nothing else is built.**  A tree is built from its listing alone
and none is missing but from no tokens.  All other tokens are refused, for the one reason that they
are misfit. -/
theorem tree_is_built_from_its_listing (tokens : List Token) :
    (∀ tree, ofPostfix? tokens = .ok (some tree) ↔ tokens = tree.postorder) ∧
      (ofPostfix? tokens = .ok none ↔ tokens = []) ∧
      ((∃ reason, ofPostfix? tokens = .error reason) ↔
        ¬ (tokens = [] ∨ ∃ tree, tokens = postorder tree)) ∧
      ∀ reason, ofPostfix? tokens = .error reason ↔ Misfit tokens reason := by
  refine ⟨fun tree => ofPostfix?_eq_some_iff_postorder, ofPostfix?_eq_none_iff, ?_,
    fun reason => ofPostfix?_eq_error⟩
  rw [exists_eq_error_iff, Option.exists, ofPostfix?_eq_none_iff]
  simp only [ofPostfix?_eq_some_iff_postorder]

example : ofPostfix? [.term "a", .term "b", .operator .not, .operator .and]
    = .ok (some (.and (.term "a") (.not (.term "b")))) := by decide
example : ofPostfix? [.term "a", .operator .and, .term "b"] = .error (.missingOperand .and) := by
  decide
example : ofPostfix? [.term "a", .term "b", .operator .not] = .error .missingOperator := by decide

end Tree

end Retrieval.Query

import Mathlib.Data.List.Count
import Mathlib.Tactic.Common
import Retrieval.Proofs.Query.Conservation

/-!
# What becomes of any tokens

Bringing tokens into postfix order fails for their parentheses alone, and `Unmatched` says which of
the two complaints there is: a right parenthesis is unmatched if some first part of the tokens has
more right ones than left ones, and otherwise a left one is if there are fewer right ones on the
whole.  The two and balance exclude each other, so the complaint is exact
(`postfixFrom_eq_error`).

What comes out in the good case is all there is but the parentheses.  So the tree of an accepted
query has as many nodes of each operator as the query has tokens of it (`nodes_of_parse?`), and its
terms are those of the query in the order in which they are first met.  Both are collected by a walk
that takes up what it has not met before: one goes over the tree, the other over the tokens
(`collect_distinct`, `collect_tokens`).
-/

namespace Retrieval.Query

/-! ## Unmatched parentheses -/

/-- What is wrong with the parentheses of tokens before which `pending` left ones are open. -/
def Unmatched (pending : Nat) (tokens : List Token) : SyntaxError → Prop
  | .unmatchedRight => ∃ front, front <+: tokens ∧
    pending + front.count .leftParen < front.count .rightParen
  | .unmatchedLeft =>
    (∀ front, front <+: tokens → front.count .rightParen ≤ pending + front.count .leftParen) ∧
      tokens.count .rightParen < pending + tokens.count .leftParen
  | _ => False

/-- Nothing else is wrong with parentheses. -/
lemma Unmatched.eq_or_eq {pending : Nat} {tokens : List Token} {reason : SyntaxError}
    (h : Unmatched pending tokens reason) : reason = .unmatchedRight ∨ reason = .unmatchedLeft := by
  cases reason with
  | unmatchedRight => exact Or.inl rfl
  | unmatchedLeft => exact Or.inr rfl
  | missingOperand op => cases h
  | missingOperator | strayParenthesis => cases h

lemma Unmatched.cons {pending later : Nat} {token : Token} {rest : List Token}
    {reason : SyntaxError} (h : Unmatched later rest reason)
    (hlater : later + [token].count .rightParen = pending + [token].count .leftParen) :
    Unmatched pending (token :: rest) reason := by
  rcases h.eq_or_eq with rfl | rfl
  · obtain ⟨front, hfront, hmore⟩ := h
    refine ⟨token :: front, List.cons_prefix_cons.mpr ⟨rfl, hfront⟩, ?_⟩
    rw [List.count_singleton, List.count_singleton] at hlater
    rw [List.count_cons, List.count_cons]
    omega
  · obtain ⟨hearly, hfewer⟩ := h
    refine ⟨fun front => count_le_of_prefix_cons (fun hfront => hearly _ hfront) hlater, ?_⟩
    rw [List.count_singleton, List.count_singleton] at hlater
    rw [List.count_cons, List.count_cons]
    omega

/-- Balanced parentheses are not unmatched. -/
lemma Closes.not_unmatched {pending : Nat} {tokens : List Token} (h : Closes pending tokens)
    (reason : SyntaxError) : ¬ Unmatched pending tokens reason := by
  intro hunmatched
  rcases hunmatched.eq_or_eq with rfl | rfl
  · obtain ⟨front, hfront, hmore⟩ := hunmatched
    exact absurd hmore (Nat.not_lt.mpr (h.early hfront))
  · exact absurd h.total hunmatched.2.ne

/-- There is one complaint about parentheses. -/
lemma Unmatched.unique {pending : Nat} {tokens : List Token} {reason other : SyntaxError}
    (h : Unmatched pending tokens reason) (hother : Unmatched pending tokens other) :
    reason = other := by
  have hboth : Unmatched pending tokens .unmatchedRight →
      ¬ Unmatched pending tokens .unmatchedLeft := by
    rintro ⟨front, hfront, hmore⟩ ⟨hearly, -⟩
    exact absurd hmore (Nat.not_lt.mpr (hearly front hfront))
  rcases h.eq_or_eq with rfl | rfl
  · rcases hother.eq_or_eq with rfl | rfl
    · rfl
    · exact absurd hother (hboth h)
  · rcases hother.eq_or_eq with rfl | rfl
    · exact absurd h (hboth hother)
    · rfl

lemma releaseAll_eq_error {waiting : List Waiting} {reason : SyntaxError}
    (h : releaseAll waiting = .error reason) :
    reason = .unmatchedLeft ∧ 0 < waiting.count .paren := by
  induction waiting with
  | nil => cases h
  | cons top rest ih =>
    cases top with
    | paren =>
      cases h
      exact ⟨rfl, by rw [List.count_cons_self]; exact Nat.succ_pos _⟩
    | operator op =>
      rw [List.count_cons_of_ne (by simp)]
      exact ih (map_eq_error.mp h)

lemma closeGroup?_eq_none {waiting : List Waiting} (h : closeGroup? waiting = none) :
    waiting.count .paren = 0 := by
  by_contra hparen
  obtain ⟨released, kept, hclose, -⟩ := exists_closeGroup? (Nat.pos_of_ne_zero hparen)
  rw [h] at hclose
  cases hclose

lemma unmatched_of_postfixFrom {waiting : List Waiting} {tokens : List Token}
    {reason : SyntaxError} (h : postfixFrom waiting tokens = .error reason) :
    Unmatched (waiting.count .paren) tokens reason := by
  induction tokens generalizing waiting with
  | nil =>
    obtain ⟨rfl, hopen⟩ := releaseAll_eq_error h
    refine ⟨fun front hfront => ?_, hopen⟩
    rw [List.prefix_nil.mp hfront]
    exact Nat.zero_le _
  | cons token rest ih =>
    cases token with
    | term value => exact (ih (map_eq_error.mp h)).cons rfl
    | leftParen =>
      refine (ih h).cons ?_
      rw [List.count_cons_self]
      rfl
    | rightParen =>
      rw [postfixFrom] at h
      cases hclose : closeGroup? waiting with
      | none =>
        rw [hclose] at h
        cases h
        refine ⟨[.rightParen], by simp, ?_⟩
        rw [closeGroup?_eq_none hclose]
        decide
      | some closed =>
        obtain ⟨released, kept⟩ := closed
        rw [hclose] at h
        exact (ih (map_eq_error.mp h)).cons (count_paren_of_closeGroup? hclose)
    | operator op =>
      have hothers := ih (map_eq_error.mp h)
      rw [List.count_cons_of_ne (by simp), count_paren_dropWhile] at hothers
      exact hothers.cons rfl

/-- **Postfix order fails as parentheses are unmatched.** -/
theorem postfixFrom_eq_error {waiting : List Waiting} {tokens : List Token}
    {reason : SyntaxError} :
    postfixFrom waiting tokens = .error reason ↔
      Unmatched (waiting.count .paren) tokens reason := by
  refine ⟨unmatched_of_postfixFrom, fun h => ?_⟩
  cases hout : postfixFrom waiting tokens with
  | ok out => exact absurd h ((closes_of_postfixFrom hout).not_unmatched reason)
  | error other => rw [(unmatched_of_postfixFrom hout).unique h]

namespace Tree

/-! ## Nodes of an operator -/

/-- How many nodes of a tree hold an operator. -/
def nodes (op : Operator) : Tree → Nat
  | term _ => 0
  | and left right => left.nodes op + right.nodes op + if Operator.and = op then 1 else 0
  | or left right => left.nodes op + right.nodes op + if Operator.or = op then 1 else 0
  | not child => child.nodes op + if Operator.not = op then 1 else 0

lemma count_postorder (op : Operator) (tree : Tree) :
    tree.postorder.count (.operator op) = tree.nodes op := by
  induction tree with
  | term value => simp [postorder, nodes]
  | and left right ihl ihr | or left right ihl ihr =>
    simp [postorder, nodes, List.count_append, List.count_singleton, ihl, ihr, Nat.add_assoc]
  | not child ih =>
    simp [postorder, nodes, List.count_append, List.count_singleton, ih]

/-- **The operators of a parsed tree** are as many as those of the query. -/
theorem nodes_of_parse? {tokens : List Token} {tree : Tree}
    (h : parse? tokens = .ok (some tree)) (op : Operator) :
    tree.nodes op = tokens.count (.operator op) := by
  rw [← count_postorder, (perm_postorder_of_parse? h).count_eq, List.count_filter rfl]

end Tree

/-! ## Collecting terms -/

/-- Takes up a value unless it has been found before. -/
def takeUp (found : List String) (value : String) : List String :=
  if value ∈ found then found else found ++ [value]

/-- Takes up the values of the leaves, from left to right. -/
def Tree.collect (found : List String) : Tree → List String
  | term value => takeUp found value
  | and left right => right.collect (left.collect found)
  | or left right => right.collect (left.collect found)
  | not child => child.collect found

/-- Takes up the value of a term. -/
def Token.collect (found : List String) : Token → List String
  | term value => takeUp found value
  | _ => found

lemma takeUp_distinct (items : List String) (value : String) :
    takeUp (distinct items) value = distinct (items ++ [value]) := by
  rw [distinct_append_singleton, takeUp]
  simp only [mem_distinct]

/-- A walk over a tree finds its distinct leaves. -/
lemma Tree.collect_distinct (items : List String) (tree : Tree) :
    tree.collect (distinct items) = distinct (items ++ tree.leaves) := by
  induction tree generalizing items with
  | term value => exact takeUp_distinct items value
  | and left right ihl ihr | or left right ihl ihr =>
    rw [collect, ihl, ihr, leaves, List.append_assoc]
  | not child ih => exact ih items

/-- A walk over tokens finds their distinct terms. -/
lemma collect_tokens (items : List String) (tokens : List Token) :
    tokens.foldl Token.collect (distinct items)
      = distinct (items ++ tokens.filterMap Token.term?) := by
  induction tokens generalizing items with
  | nil => rw [List.filterMap_nil, List.append_nil]; rfl
  | cons token rest ih =>
    cases token with
    | term value =>
      rw [List.foldl_cons, Token.collect, takeUp_distinct, ih, List.append_assoc]
      rfl
    | operator op => exact ih items
    | leftParen | rightParen => exact ih items

/-! ## All outcomes -/

/-- **Postfix order loses nothing, and fails as parentheses do not match.**  It exists exactly if
the parentheses balance; a right one is unmatched exactly if one comes too early, and a left one
exactly if none does but one is missing.  It holds the other tokens, and the terms among them in
their order.  So a parsed tree has the terms of the query for its leaves and as many nodes of each
operator, and both walks find the same terms; and a query asks for nothing exactly if it is balanced
parentheses alone. -/
theorem every_token_is_accounted_for (tokens : List Token) :
    ((∃ out, toPostfix tokens = .ok out) ↔ Balanced tokens) ∧
      (toPostfix tokens = .error .unmatchedRight ↔
        ∃ front, front <+: tokens ∧ front.count .leftParen < front.count .rightParen) ∧
      (toPostfix tokens = .error .unmatchedLeft ↔
        (∀ front, front <+: tokens → front.count .rightParen ≤ front.count .leftParen) ∧
          tokens.count .rightParen < tokens.count .leftParen) ∧
      (∀ reason, toPostfix tokens = .error reason →
        reason = .unmatchedRight ∨ reason = .unmatchedLeft) ∧
      (∀ out, toPostfix tokens = .ok out →
        (∀ token ∈ out, token.isParenthesis = false) ∧
          out.Perm (tokens.filter (!·.isParenthesis)) ∧
          out.filterMap Token.term? = tokens.filterMap Token.term?) ∧
      (∀ tree, Tree.parse? tokens = .ok (some tree) →
        tree.leaves = tokens.filterMap Token.term? ∧
          (∀ op, tree.nodes op = tokens.count (.operator op)) ∧
          tree.terms = distinctTerms tokens ∧
          tree.collect [] = tree.terms ∧
          tokens.foldl Token.collect [] = distinctTerms tokens) ∧
      (Tree.parse? tokens = .ok none ↔
        Balanced tokens ∧ ∀ token ∈ tokens, token.isParenthesis = true) := by
  have herror : ∀ reason, toPostfix tokens = .error reason ↔ Unmatched 0 tokens reason :=
    fun reason => postfixFrom_eq_error
  refine ⟨⟨fun ⟨out, hout⟩ => balanced_of_toPostfix hout, exists_toPostfix⟩, ?_, ?_, ?_, ?_, ?_,
    Tree.parse?_eq_none_iff⟩
  · rw [herror, Unmatched]
    simp only [Nat.zero_add]
  · rw [herror, Unmatched]
    simp only [Nat.zero_add]
  · intro reason hreason
    exact ((herror reason).mp hreason).eq_or_eq
  · intro out hout
    have hperm := perm_toPostfix hout
    refine ⟨fun token htoken => ?_, hperm, filterMap_term?_postfixFrom hout⟩
    simpa using (List.mem_filter.mp (hperm.mem_iff.mp htoken)).2
  · intro tree htree
    have hleaves := Tree.leaves_of_parse? htree
    have hterms : tree.terms = distinctTerms tokens := by
      rw [Tree.terms, hleaves, distinctTerms]
    exact ⟨hleaves, Tree.nodes_of_parse? htree, hterms, Tree.collect_distinct [] tree,
      collect_tokens [] tokens⟩

/-- The query `(b OR a) AND !b`, and two whose parentheses do not match. -/
theorem repeated_term_is_collected_once :
    let tokens : List Token := [.leftParen, .term "b", .operator .or, .term "a", .rightParen,
      .operator .and, .operator .not, .term "b"]
    let tree : Tree := .and (.or (.term "b") (.term "a")) (.not (.term "b"))
    toPostfix tokens = .ok tree.postorder ∧ Tree.parse? tokens = .ok (some tree) ∧
      tree.postorder.Perm (tokens.filter (!·.isParenthesis)) ∧
      tree.nodes .not = 1 ∧ tree.terms = ["b", "a"] ∧
      toPostfix [.rightParen, .leftParen] = .error .unmatchedRight ∧
      toPostfix [.leftParen, .leftParen, .rightParen] = .error .unmatchedLeft := by
  intro tokens tree
  have hout : toPostfix tokens = .ok tree.postorder := by decide
  have htree : Tree.parse? tokens = .ok (some tree) := by decide
  obtain ⟨-, -, -, -, hlisted, hparsed, -⟩ := every_token_is_accounted_for tokens
  obtain ⟨-, hnodes, hterms, -⟩ := hparsed tree htree
  refine ⟨hout, htree, (hlisted _ hout).2.1, ?_, ?_, ?_, ?_⟩
  · rw [hnodes]
    decide
  · rw [hterms]
    decide
  · have hclose := (every_token_is_accounted_for [.rightParen, .leftParen]).2.1
    exact hclose.mpr ⟨[.rightParen], by decide, by decide⟩
  · decide

end Retrieval.Query

import Mathlib.Data.List.Perm.Basic
import Mathlib.Tactic.Common
import Retrieval.Proofs.Query.Postfix

/-!
# Postfix order loses nothing

Bringing tokens into postfix order drops the parentheses and moves operators, and does nothing else:
what comes out is a permutation of the other tokens (`perm_toPostfix`).  It succeeds only if the
parentheses balance (`balanced_of_toPostfix`), which is the converse of `exists_toPostfix`.

Building a tree loses nothing either, so the nodes of a parsed tree are these tokens again
(`perm_postorder_of_parse?`).  A tree has one term more than it has binary operators, and as counts
do not depend on the order, so has an accepted query, in whatever order they stand
(`count_terms_of_parse?`).  This is all that the parser checks beside the parentheses.  Where there
are no nodes there is no tree, so a query without one is parentheses alone (`parse?_eq_none_iff`).
-/

namespace Retrieval.Query

/-! ## Kinds of tokens -/

namespace Token

/-- Whether the token is a parenthesis. -/
def isParenthesis : Token → Bool
  | leftParen | rightParen => true
  | _ => false

/-- Whether the token is a term. -/
def isTerm : Token → Bool
  | term _ => true
  | _ => false

/-- Whether the token is an operator between two operands. -/
def isBinary : Token → Bool
  | operator .and | operator .or => true
  | _ => false

end Token

/-! ## What waits comes out -/

@[simp]
lemma filterMap_token?_cons_operator (op : Operator) (waiting : List Waiting) :
    (.operator op :: waiting).filterMap Waiting.token?
      = .operator op :: waiting.filterMap Waiting.token? := rfl

@[simp]
lemma filterMap_token?_cons_paren (waiting : List Waiting) :
    (.paren :: waiting).filterMap Waiting.token? = waiting.filterMap Waiting.token? := rfl

lemma closeGroup?_conserves {waiting kept : List Waiting} {released : List Token}
    (h : closeGroup? waiting = some (released, kept)) :
    released ++ kept.filterMap Waiting.token? = waiting.filterMap Waiting.token? := by
  induction waiting generalizing released with
  | nil => cases h
  | cons top rest ih =>
    cases top with
    | paren =>
      cases h
      exact List.nil_append _
    | operator op =>
      obtain ⟨⟨others, below⟩, hrest, hpair⟩ := Option.map_eq_some_iff.mp h
      cases hpair
      rw [List.cons_append, ih hrest, filterMap_token?_cons_operator]

lemma releaseAll_conserves {waiting : List Waiting} {released : List Token}
    (h : releaseAll waiting = .ok released) : released = waiting.filterMap Waiting.token? := by
  induction waiting generalizing released with
  | nil =>
    cases h
    exact List.filterMap_nil.symm
  | cons top rest ih =>
    cases top with
    | paren => cases h
    | operator op =>
      obtain ⟨others, hrest, rfl⟩ := map_eq_ok.mp h
      rw [ih hrest, filterMap_token?_cons_operator]

/-- What comes out is what waited and what came in, less the parentheses. -/
lemma perm_postfixFrom {waiting : List Waiting} {tokens out : List Token}
    (h : postfixFrom waiting tokens = .ok out) :
    out.Perm (waiting.filterMap Waiting.token? ++ tokens.filter (!·.isParenthesis)) := by
  induction tokens generalizing waiting out with
  | nil =>
    rw [releaseAll_conserves h, List.filter_nil, List.append_nil]
  | cons token rest ih =>
    cases token with
    | term value =>
      obtain ⟨others, hrest, rfl⟩ := map_eq_ok.mp h
      rw [List.filter_cons_of_pos rfl]
      exact ((ih hrest).cons _).trans List.perm_middle.symm
    | leftParen =>
      have hopened : postfixFrom (.paren :: waiting) rest = .ok out := h
      rw [List.filter_cons_of_neg (by decide), ← filterMap_token?_cons_paren]
      exact ih hopened
    | rightParen =>
      rw [postfixFrom] at h
      cases hclose : closeGroup? waiting with
      | none =>
        rw [hclose] at h
        cases h
      | some closed =>
        obtain ⟨released, kept⟩ := closed
        rw [hclose] at h
        obtain ⟨others, hrest, rfl⟩ := map_eq_ok.mp h
        rw [List.filter_cons_of_neg (by decide), ← closeGroup?_conserves hclose, List.append_assoc]
        exact (ih hrest).append_left released
    | operator op =>
      obtain ⟨others, hrest, rfl⟩ := map_eq_ok.mp h
      rw [List.filter_cons_of_pos rfl]
      have hothers := ih hrest
      rw [filterMap_token?_cons_operator] at hothers
      have hsplit := congrArg (List.filterMap Waiting.token?)
        (List.takeWhile_append_dropWhile (p := (·.yieldsTo op)) (l := waiting))
      rw [List.filterMap_append] at hsplit
      rw [← hsplit, List.append_assoc]
      exact (hothers.trans List.perm_middle.symm).append_left _

/-- **Postfix order is a permutation** of the tokens that are no parentheses. -/
theorem perm_toPostfix {tokens out : List Token} (h : toPostfix tokens = .ok out) :
    out.Perm (tokens.filter (!·.isParenthesis)) :=
  perm_postfixFrom h

/-! ## Parentheses balance -/

/-- No right parenthesis comes too early if none does behind the first token, with those pending that
are open there. -/
lemma count_le_of_prefix_cons {pending later : Nat} {token : Token} {rest front : List Token}
    (h : ∀ {front}, front <+: rest →
      front.count .rightParen ≤ later + front.count .leftParen)
    (hlater : later + [token].count .rightParen = pending + [token].count .leftParen)
    (hfront : front <+: token :: rest) :
    front.count .rightParen ≤ pending + front.count .leftParen := by
  rw [List.count_singleton, List.count_singleton] at hlater
  rcases List.prefix_cons_iff.mp hfront with rfl | ⟨others, rfl, hothers⟩
  · exact Nat.zero_le _
  · have := h hothers
    rw [List.count_cons, List.count_cons]
    omega

lemma Closes.cons {pending later : Nat} {token : Token} {rest : List Token} (h : Closes later rest)
    (hlater : later + [token].count .rightParen = pending + [token].count .leftParen) :
    Closes pending (token :: rest) where
  early := count_le_of_prefix_cons h.early hlater
  total := by
    have := h.total
    rw [List.count_singleton, List.count_singleton] at hlater
    rw [List.count_cons, List.count_cons]
    omega

lemma count_paren_of_releaseAll {waiting : List Waiting} {released : List Token}
    (h : releaseAll waiting = .ok released) : waiting.count .paren = 0 := by
  induction waiting generalizing released with
  | nil => exact List.count_nil
  | cons top rest ih =>
    cases top with
    | paren => cases h
    | operator op =>
      obtain ⟨others, hrest, -⟩ := map_eq_ok.mp h
      rw [List.count_cons_of_ne (by simp), ih hrest]

lemma count_paren_of_closeGroup? {waiting kept : List Waiting} {released : List Token}
    (h : closeGroup? waiting = some (released, kept)) :
    kept.count .paren + 1 = waiting.count .paren := by
  induction waiting generalizing released with
  | nil => cases h
  | cons top rest ih =>
    cases top with
    | paren =>
      cases h
      rw [List.count_cons_self]
    | operator op =>
      obtain ⟨⟨others, below⟩, hrest, hpair⟩ := Option.map_eq_some_iff.mp h
      cases hpair
      rw [ih hrest, List.count_cons_of_ne (by simp)]

lemma closes_of_postfixFrom {waiting : List Waiting} {tokens out : List Token}
    (h : postfixFrom waiting tokens = .ok out) : Closes (waiting.count .paren) tokens := by
  induction tokens generalizing waiting out with
  | nil =>
    rw [count_paren_of_releaseAll h]
    decide
  | cons token rest ih =>
    cases token with
    | term value =>
      obtain ⟨others, hrest, -⟩ := map_eq_ok.mp h
      exact (ih hrest).cons rfl
    | leftParen =>
      refine (ih h).cons ?_
      rw [List.count_cons_self]
      rfl
    | rightParen =>
      rw [postfixFrom] at h
      cases hclose : closeGroup? waiting with
      | none =>
        rw [hclose] at h
        cases h
      | some closed =>
        obtain ⟨released, kept⟩ := closed
        rw [hclose] at h
        obtain ⟨others, hrest, -⟩ := map_eq_ok.mp h
        exact (ih hrest).cons (count_paren_of_closeGroup? hclose)
    | operator op =>
      obtain ⟨others, hrest, -⟩ := map_eq_ok.mp h
      have hothers := ih hrest
      rw [List.count_cons_of_ne (by simp), count_paren_dropWhile] at hothers
      exact hothers.cons rfl

/-- **Only balanced tokens have a postfix order.** -/
theorem balanced_of_toPostfix {tokens out : List Token} (h : toPostfix tokens = .ok out) :
    Balanced tokens :=
  closes_of_postfixFrom h

/-! ## Nodes are counted -/

namespace Tree

/-- **The nodes of a parsed tree** are the tokens of the query that are no parentheses, in another
order. -/
theorem perm_postorder_of_parse? {tokens : List Token} {tree : Tree}
    (h : parse? tokens = .ok (some tree)) :
    tree.postorder.Perm (tokens.filter (!·.isParenthesis)) := by
  obtain ⟨out, hout, htree⟩ := bind_eq_ok.mp h
  rw [← ofPostfix?_eq_some_iff_postorder.mp htree]
  exact perm_toPostfix hout

/-- A tree has one term more than it has binary operators. -/
lemma countP_postorder (tree : Tree) :
    tree.postorder.countP Token.isTerm = tree.postorder.countP Token.isBinary + 1 := by
  induction tree with
  | term value => rfl
  | and left right ihl ihr | or left right ihl ihr =>
    simp only [postorder, List.countP_append, List.countP_singleton, ihl, ihr, Token.isTerm,
      Token.isBinary, Bool.false_eq_true, if_false, if_true]
    omega
  | not child ih =>
    simp only [postorder, List.countP_append, List.countP_singleton, ih, Token.isTerm,
      Token.isBinary, Bool.false_eq_true, if_false, Nat.add_zero]

/-- **An accepted query has one term more than it has binary operators.** -/
theorem count_terms_of_parse? {tokens : List Token} {tree : Tree}
    (h : parse? tokens = .ok (some tree)) :
    tokens.countP Token.isTerm = tokens.countP Token.isBinary + 1 := by
  have hcount : ∀ kind : Token → Bool, (∀ token, kind token = true → token.isParenthesis = false) →
      tree.postorder.countP kind = tokens.countP kind := by
    intro kind hkind
    rw [(perm_postorder_of_parse? h).countP_eq, List.countP_filter]
    refine List.countP_congr fun token _ => ?_
    simpa using hkind token
  have hterms : tree.postorder.countP Token.isTerm = tokens.countP Token.isTerm := by
    apply hcount
    intro token
    cases token <;> simp [Token.isTerm, Token.isParenthesis]
  have hbinary : tree.postorder.countP Token.isBinary = tokens.countP Token.isBinary := by
    apply hcount
    intro token
    cases token <;> simp [Token.isBinary, Token.isParenthesis]
  rw [← hterms, ← hbinary]
  exact tree.countP_postorder

/-- A tree is missing only where there are no tokens: each token leaves a tree on the stack. -/
lemma ofPostfix?_eq_none_iff {tokens : List Token} :
    ofPostfix? tokens = .ok none ↔ tokens = [] := by
  rw [ofPostfix?, bind_eq_ok]
  constructor
  · rintro ⟨stack, hstack, hroot⟩
    have hempty : stack = [] := by
      rcases stack with _ | ⟨root, _ | ⟨next, rest⟩⟩
      · rfl
      · cases hroot
      · cases hroot
    have hnodes := stackPostorder_foldlM_push hstack
    rw [hempty] at hnodes
    exact hnodes.symm
  · rintro rfl
    exact ⟨[], rfl, rfl⟩

/-- **What asks for nothing** is balanced parentheses and nothing else. -/
theorem parse?_eq_none_iff {tokens : List Token} :
    parse? tokens = .ok none ↔
      Balanced tokens ∧ ∀ token ∈ tokens, token.isParenthesis = true := by
  have hnone : tokens.filter (!·.isParenthesis) = [] ↔
      ∀ token ∈ tokens, token.isParenthesis = true := by
    rw [List.filter_eq_nil_iff]
    simp
  rw [parse?, bind_eq_ok, ← hnone]
  constructor
  · rintro ⟨out, hout, htree⟩
    refine ⟨balanced_of_toPostfix hout, ?_⟩
    rw [ofPostfix?_eq_none_iff] at htree
    subst htree
    exact (perm_toPostfix hout).nil_eq.symm
  · rintro ⟨hbalanced, hparentheses⟩
    obtain ⟨out, hout⟩ := exists_toPostfix hbalanced
    have hperm := perm_toPostfix hout
    rw [hparentheses] at hperm
    exact ⟨out, hout, ofPostfix?_eq_none_iff.mpr hperm.eq_nil⟩

/-- Tokens that ask for nothing hold no term. -/
lemma not_mem_of_parse?_none {tokens : List Token} (h : parse? tokens = .ok none) (value : String) :
    .term value ∉ tokens := by
  intro hmem
  have hparenthesis := (parse?_eq_none_iff.mp h).2 _ hmem
  cases hparenthesis

end Tree

end Retrieval.Query

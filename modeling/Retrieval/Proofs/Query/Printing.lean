import Mathlib.Tactic.Common
import Retrieval.Proofs.Query.Association
import Retrieval.Proofs.Query.Grammar
import Retrieval.Proofs.Query.Lexing

/-!
# Reading a printed tree back

A printed tree is text, so it is read back in two steps.  The lexer finds the parts that the tokens
of the tree were printed as, provided that each of its terms is one word (`lexemes_chars`), and if
each term is read as itself these are the tokens again (`tokenize_text`).  The grammar derives the
tree that leans to the left from the tokens (`derives_tokens`), so this is what they are parsed to
(`parse?_tokens`).

The derivation is found by induction over the tree, and what it needs to know of an operand depends
on where the operand stands: by itself or behind a chain, in a disjunction or in a conjunction.
`Derivable` says all four at once.
-/

namespace Retrieval.Query

namespace Tree

/-- Tokens in parentheses, if they are wanted. -/
def bracket (wanted : Bool) (tokens : List Token) : List Token :=
  if wanted then .leftParen :: (tokens ++ [.rightParen]) else tokens

/-- The tokens of the printed form. -/
def tokens : Tree → List Token
  | term value => [.term value]
  | not child => .operator .not :: bracket true child.tokens
  | and left right =>
    bracket (left.needsParens .and) left.tokens ++
      .operator .and :: bracket (right.needsParens .and) right.tokens
  | or left right => left.tokens ++ .operator .or :: right.tokens

/-! ## Derivation -/

/-- What is derived from the tokens of a tree, wherever they stand. -/
structure Derivable (tree : Tree) : Prop where
  disjunction : Derives .or tree.tokens tree.leftNested
  afterOr : ∀ {before left}, Derives .or before left →
    Derives .or (before ++ .operator .or :: tree.tokens) (left.graftOr tree.leftNested)
  conjunction : Derives .and (bracket (tree.needsParens .and) tree.tokens) tree.leftNested
  afterAnd : ∀ {before left}, Derives .and before left →
    Derives .and (before ++ .operator .and :: bracket (tree.needsParens .and) tree.tokens)
      (left.graftAnd tree.leftNested)

namespace Derivable

/-- No chain goes on in a term. -/
lemma term (value : String) : Derivable (.term value) where
  disjunction := .conjunction (.unit (.term value))
  afterOr hleft := .or hleft (.unit (.term value))
  conjunction := .unit (.term value)
  afterAnd hleft := .and hleft (.term value)

/-- No chain goes on in a negation. -/
lemma not {child : Tree} (h : Derivable child) : Derivable (.not child) where
  disjunction := .conjunction (.unit (.not (.group h.disjunction)))
  afterOr hleft := .or hleft (.unit (.not (.group h.disjunction)))
  conjunction := .unit (.not (.group h.disjunction))
  afterAnd hleft := .and hleft (.not (.group h.disjunction))

/-- A chain of conjunctions goes on in both operands of a conjunction. -/
lemma and {left right : Tree} (hl : Derivable left) (hr : Derivable right) :
    Derivable (.and left right) := by
  obtain ⟨front, last, hshape⟩ := exists_graftAnd left.leftNested right.leftNested
  have hconjunction : Derives .and (Tree.and left right).tokens (Tree.and left right).leftNested :=
    hr.afterAnd hl.conjunction
  refine ⟨.conjunction hconjunction, fun {before first} hfirst => ?_, hconjunction,
    fun {before first} hfirst => ?_⟩
  · have hor : first.graftOr (Tree.and left right).leftNested
        = .or first (Tree.and left right).leftNested := by
      rw [leftNested, hshape]
      rfl
    rw [hor]
    exact .or hfirst hconjunction
  · have hchain := hr.afterAnd (hl.afterAnd hfirst)
    rw [graftAnd_graftAnd, List.append_assoc, List.cons_append] at hchain
    exact hchain

/-- A chain of disjunctions goes on in both operands of a disjunction. -/
lemma or {left right : Tree} (hl : Derivable left) (hr : Derivable right) :
    Derivable (.or left right) := by
  obtain ⟨front, last, hshape⟩ := exists_graftOr left.leftNested right.leftNested
  have hdisjunction : Derives .or (Tree.or left right).tokens (Tree.or left right).leftNested :=
    hr.afterOr hl.disjunction
  refine ⟨hdisjunction, fun {before first} hfirst => ?_, .unit (.group hdisjunction),
    fun {before first} hfirst => ?_⟩
  · have hchain := hr.afterOr (hl.afterOr hfirst)
    rw [graftOr_graftOr, List.append_assoc, List.cons_append] at hchain
    exact hchain
  · have hand : first.graftAnd (Tree.or left right).leftNested
        = .and first (Tree.or left right).leftNested := by
      rw [leftNested, hshape]
      rfl
    rw [hand]
    exact .and hfirst (.group hdisjunction)

end Derivable

lemma derivable (tree : Tree) : Derivable tree := by
  induction tree with
  | term value => exact .term value
  | and left right ihl ihr => exact ihl.and ihr
  | or left right ihl ihr => exact ihl.or ihr
  | not child ih => exact ih.not

/-- **The tokens of a tree derive the tree that leans to the left.** -/
theorem derives_tokens (tree : Tree) : Derives .or tree.tokens tree.leftNested :=
  tree.derivable.disjunction

/-! ## Lexing -/

lemma filterMap_term?_tokens (tree : Tree) : tree.tokens.filterMap Token.term? = tree.leaves := by
  have hbracket : ∀ wanted tokens, (bracket wanted tokens).filterMap Token.term?
      = tokens.filterMap Token.term? := by
    intro wanted tokens
    cases wanted with
    | false => rfl
    | true =>
      rw [bracket, if_pos rfl, List.filterMap_cons_none rfl, List.filterMap_append]
      exact List.append_nil _
  induction tree with
  | term value => rfl
  | and left right ihl ihr =>
    rw [tokens, List.filterMap_append, hbracket, List.filterMap_cons_none rfl, hbracket, ihl, ihr]
    rfl
  | or left right ihl ihr =>
    rw [tokens, List.filterMap_append, List.filterMap_cons_none rfl, ihl, ihr]
    rfl
  | not child ih =>
    rw [tokens, List.filterMap_cons_none rfl, hbracket, ih]
    rfl

lemma term_mem_tokens {tree : Tree} {value : String} :
    .term value ∈ tree.tokens ↔ value ∈ tree.leaves := by
  rw [← filterMap_term?_tokens, ← mem_distinctTerms, distinctTerms, mem_distinct]

/-- The part of a text that a token is printed as. -/
def lexeme : Token → Lexeme
  | .term value => .word value.toList
  | token => .delimiter token

lemma startsCut_cons {c : Char} (h : Unicode.isCut c = true) (rest : List Char) :
    StartsCut (c :: rest) := by
  rintro first ⟨⟩
  exact h

/-- A tree between parentheses is read if the tree itself is. -/
lemma lexemes_enclose {tree : Tree} {rest : List Char}
    (h : ∀ {rest}, StartsCut rest →
      lexemes (tree.chars ++ rest) = tree.tokens.map lexeme ++ lexemes rest)
    (wanted : Bool) (hrest : StartsCut rest) :
    lexemes (enclose wanted tree.chars ++ rest)
      = (bracket wanted tree.tokens).map lexeme ++ lexemes rest := by
  cases wanted with
  | false => exact h hrest
  | true =>
    have hclose : StartsCut (')' :: rest) := startsCut_cons (by decide) rest
    rw [enclose, if_pos rfl, bracket, if_pos rfl, List.cons_append, List.append_assoc,
      List.singleton_append, lexemes_left, h hclose, lexemes_right, List.map_cons,
      List.map_append, List.cons_append, List.append_assoc]
    rfl

/-- **The lexer finds the parts a tree was printed from**, if each of its terms is one word. -/
theorem lexemes_chars {tree : Tree} (h : ∀ value ∈ tree.leaves, IsWord value.toList)
    {rest : List Char} (hrest : StartsCut rest) :
    lexemes (tree.chars ++ rest) = tree.tokens.map lexeme ++ lexemes rest := by
  induction tree generalizing rest with
  | term value => exact lexemes_word (h value (List.mem_singleton.mpr rfl)) hrest
  | and left right ihl ihr =>
    simp only [leaves, List.mem_append] at h
    have hblank : ∀ text, StartsCut ([' ', 'A', 'N', 'D', ' '] ++ text) :=
      fun text => startsCut_cons (by decide +kernel) _
    rw [chars, List.append_assoc, List.append_assoc,
      lexemes_enclose (ihl fun value hvalue => h value (Or.inl hvalue)) _ (hblank _),
      lexemes_and, lexemes_enclose (ihr fun value hvalue => h value (Or.inr hvalue)) _ hrest,
      tokens, List.map_append, List.map_cons, List.append_assoc, List.cons_append]
    rfl
  | or left right ihl ihr =>
    simp only [leaves, List.mem_append] at h
    have hparens : ∀ tree : Tree, tree.needsParens .or = false := by
      intro tree
      cases tree <;> rfl
    have hblank : ∀ text, StartsCut ([' ', 'O', 'R', ' '] ++ text) :=
      fun text => startsCut_cons (by decide +kernel) _
    rw [chars, hparens, hparens, enclose_false, enclose_false, List.append_assoc,
      List.append_assoc, ihl (fun value hvalue => h value (Or.inl hvalue)) (hblank _),
      lexemes_or, ihr (fun value hvalue => h value (Or.inr hvalue)) hrest, tokens,
      List.map_append, List.map_cons, List.append_assoc, List.cons_append]
    rfl
  | not child ih =>
    rw [chars, List.cons_append, lexemes_mark, lexemes_enclose (ih h) true hrest, tokens,
      List.map_cons, List.cons_append]
    rfl

lemma lexemes_text {tree : Tree} (h : ∀ value ∈ tree.leaves, IsWord value.toList) :
    lexemes tree.text.toList = tree.tokens.map lexeme := by
  have hend : StartsCut [] := by rintro first ⟨⟩
  have hread := lexemes_chars h hend
  rw [List.append_nil] at hread
  rw [text, String.toList_ofList, hread]
  exact List.append_nil _

variable {lemmatizer : Stem.Lemmatizer}

/-- What is printed is read token by token: each term is lemmatized once more. -/
theorem tokenize_text_eq_filterMap {tree : Tree}
    (h : ∀ value ∈ tree.leaves, IsWord value.toList) :
    tokenize lemmatizer tree.text
      = tree.tokens.filterMap fun token => (lexeme token).token? lemmatizer := by
  rw [tokenize, lexemes_text h, List.filterMap_map]
  rfl

/-- A term that is read back from its text. -/
structure Legible (lemmatizer : Stem.Lemmatizer) (value : String) : Prop where
  word : IsWord value.toList
  lemmatized : termOf lemmatizer value.toList = value.toList

lemma Legible.token? {value : String} (h : Legible lemmatizer value) :
    Lexeme.token? lemmatizer (.word value.toList) = some (.term value) := by
  simp only [Lexeme.token?, h.lemmatized, List.isEmpty_eq_false_iff.mpr h.word.nonempty,
    Bool.false_eq_true, if_false, String.ofList_toList]

/-- What is printed is read as the tokens it was printed from. -/
theorem tokenize_text {tree : Tree} (h : ∀ value ∈ tree.leaves, Legible lemmatizer value) :
    tokenize lemmatizer tree.text = tree.tokens := by
  rw [tokenize_text_eq_filterMap fun value hvalue => (h value hvalue).word]
  refine (List.filterMap_congr fun token htoken => ?_).trans (List.filterMap_some ..)
  cases token with
  | term value => exact (h value (term_mem_tokens.mp htoken)).token?
  | _ => rfl

/-- **A printed tree is read as the tree that leans to the left.** -/
theorem parse?_tokens (tree : Tree) : parse? tree.tokens = .ok (some tree.leftNested) :=
  tree.derives_tokens.parse?_eq

end Tree

end Retrieval.Query

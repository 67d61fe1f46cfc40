import Mathlib.Data.List.Count
import Mathlib.Tactic.Common
import Retrieval.Proofs.Query.Conservation
import Retrieval.Proofs.Query.Printing

/-!
# Printed terms go through the lemmatizer again

The terms of a printed tree are lemmas, and who reads the text takes them for words and lemmatizes
them once more.  What becomes of a term that way is `restemmed`.  If something is left of every term
then the tree is read back with each of them replaced (`parse?_text_of_left`).  A term of which
nothing is left is dropped, and as no operator is dropped with it what remains is no tree any more
(`parse?_text_of_lost`).

Two trees that print the same have the same terms (`leaves_eq_of_text_eq`), so a tree that prints
the same with its terms replaced had none replaced.
-/

namespace Retrieval.Query

/-! ## Other terms -/

/-- The token with another value, if it is a term. -/
def Token.mapTerm (f : String → String) : Token → Token
  | term value => .term (f value)
  | token => token

namespace Tree

/-- The tree with other values at its leaves. -/
def mapTerms (f : String → String) : Tree → Tree
  | term value => .term (f value)
  | and left right => .and (left.mapTerms f) (right.mapTerms f)
  | or left right => .or (left.mapTerms f) (right.mapTerms f)
  | not child => .not (child.mapTerms f)

variable {f : String → String}

lemma leaves_leftNested (tree : Tree) : tree.leftNested.leaves = tree.leaves :=
  (leaves_of_parse? tree.parse?_tokens).trans tree.filterMap_term?_tokens

lemma text_leftNested (tree : Tree) : tree.leftNested.text = tree.text :=
  congrArg String.ofList tree.chars_leftNested

lemma leaves_mapTerms (tree : Tree) : (tree.mapTerms f).leaves = tree.leaves.map f := by
  induction tree with
  | term value => rfl
  | and left right ihl ihr | or left right ihl ihr =>
    rw [mapTerms, leaves, leaves, ihl, ihr, List.map_append]
  | not child ih => rw [mapTerms, leaves, leaves, ih]

/-- Parentheses do not depend on the terms. -/
lemma needsParens_mapTerms (op : Operator) (tree : Tree) :
    (tree.mapTerms f).needsParens op = tree.needsParens op := by
  cases tree <;> rfl

lemma map_bracket (wanted : Bool) (tokens : List Token) :
    (bracket wanted tokens).map (Token.mapTerm f)
      = bracket wanted (tokens.map (Token.mapTerm f)) := by
  cases wanted with
  | false => rfl
  | true =>
    rw [bracket, if_pos rfl, bracket, if_pos rfl, List.map_cons, List.map_append]
    rfl

lemma tokens_mapTerms (tree : Tree) :
    (tree.mapTerms f).tokens = tree.tokens.map (Token.mapTerm f) := by
  induction tree with
  | term value => rfl
  | and left right ihl ihr =>
    rw [mapTerms, tokens, tokens, needsParens_mapTerms, needsParens_mapTerms, ihl, ihr,
      List.map_append, List.map_cons, map_bracket, map_bracket]
    rfl
  | or left right ihl ihr =>
    rw [mapTerms, tokens, tokens, ihl, ihr, List.map_append, List.map_cons]
    rfl
  | not child ih =>
    rw [mapTerms, tokens, tokens, ih, List.map_cons, map_bracket]
    rfl

/-! ## Text tells the terms -/

lemma lexeme_injective : Function.Injective lexeme := by
  intro a b h
  cases a with
  | term value =>
    cases b with
    | term other => exact congrArg Token.term (String.toList_injective (Lexeme.word.inj h))
    | _ => cases h
  | _ =>
    cases b with
    | term other => cases h
    | _ => exact Lexeme.delimiter.inj h

/-- **The text of a tree tells its terms.** -/
theorem leaves_eq_of_text_eq {a b : Tree} (ha : ∀ value ∈ a.leaves, IsWord value.toList)
    (hb : ∀ value ∈ b.leaves, IsWord value.toList) (h : a.text = b.text) :
    a.leaves = b.leaves := by
  have htokens : a.tokens = b.tokens := by
    refine List.map_injective_iff.mpr lexeme_injective ?_
    rw [← lexemes_text ha, ← lexemes_text hb, h]
  rw [← filterMap_term?_tokens, ← filterMap_term?_tokens, htokens]

end Tree

/-! ## Terms of terms -/

/-- What a term is read as when its text is read once more. -/
def restemmed (lemmatizer : Stem.Lemmatizer) (value : String) : String :=
  String.ofList (termOf lemmatizer value.toList)

namespace Tree

variable {lemmatizer : Stem.Lemmatizer}

lemma token?_lexeme (token : Token) : (lexeme token).token? lemmatizer
    = Option.guard (· ≠ .term "") (token.mapTerm (restemmed lemmatizer)) := by
  cases token with
  | term value => simp [lexeme, Lexeme.token?, Token.mapTerm, restemmed, Option.guard]
  | _ => rfl

/-- What is printed is read as the tokens of the tree with other terms, less the empty ones. -/
lemma tokenize_text_eq_filter {tree : Tree} (h : ∀ value ∈ tree.leaves, IsWord value.toList) :
    tokenize lemmatizer tree.text
      = (tree.mapTerms (restemmed lemmatizer)).tokens.filter (· ≠ .term "") := by
  rw [tokenize_text_eq_filterMap h, tokens_mapTerms, ← List.filterMap_eq_filter,
    List.filterMap_map]
  exact List.filterMap_congr fun token _ => token?_lexeme token

/-- **A printed tree is read with other terms** if something is left of each of them. -/
theorem parse?_text_of_left {tree : Tree} (h : ∀ value ∈ tree.leaves, IsWord value.toList)
    (hleft : ∀ value ∈ tree.leaves, restemmed lemmatizer value ≠ "") :
    parse? (tokenize lemmatizer tree.text)
      = .ok (some (tree.mapTerms (restemmed lemmatizer)).leftNested) := by
  have hall : ∀ token ∈ (tree.mapTerms (restemmed lemmatizer)).tokens, token ≠ .term "" := by
    rintro token htoken rfl
    rw [term_mem_tokens, leaves_mapTerms, List.mem_map] at htoken
    obtain ⟨value, hvalue, hempty⟩ := htoken
    exact hleft value hvalue hempty
  rw [tokenize_text_eq_filter h, List.filter_eq_self.mpr (by simpa using hall), parse?_tokens]

/-- **A printed tree is read as no tree** if nothing is left of one of its terms: all operators
stay, and there are too few terms for them. -/
theorem parse?_text_of_lost {tree : Tree} (h : ∀ value ∈ tree.leaves, IsWord value.toList)
    (hlost : ∃ value ∈ tree.leaves, restemmed lemmatizer value = "") (other : Tree) :
    parse? (tokenize lemmatizer tree.text) ≠ .ok (some other) := by
  intro hparse
  have hcount := count_terms_of_parse? hparse
  rw [tokenize_text_eq_filter h] at hcount
  have hold := count_terms_of_parse? (tree.mapTerms (restemmed lemmatizer)).parse?_tokens
  have hempty : .term "" ∈ (tree.mapTerms (restemmed lemmatizer)).tokens := by
    rw [term_mem_tokens, leaves_mapTerms]
    exact List.mem_map.mpr hlost
  generalize (tree.mapTerms (restemmed lemmatizer)).tokens = tokens at *
  have hbinary : (tokens.filter (· ≠ .term "")).countP Token.isBinary
      = tokens.countP Token.isBinary := by
    rw [List.countP_filter]
    refine List.countP_congr fun token _ => ?_
    cases token <;> simp [Token.isBinary]
  have hterms : (tokens.filter (· ≠ .term "")).countP Token.isTerm
      < tokens.countP Token.isTerm := by
    have hpos : 0 < (tokens.filter fun token => !decide (token ≠ .term "")).countP Token.isTerm :=
      List.countP_pos_iff.mpr ⟨.term "", List.mem_filter.mpr ⟨hempty, by simp⟩, rfl⟩
    have hsplit := List.countP_eq_countP_filter_add tokens Token.isTerm (· ≠ .term "")
    omega
  omega

end Tree

end Retrieval.Query

import Mathlib.Data.List.Infix
import Mathlib.Tactic.Common
import Retrieval.Proofs.Fault
import Retrieval.Query.Lexer
import Retrieval.Query.Tree

/-!
# From tokens to trees, and back

Parsing goes through postfix order.  Two facts about that way are used again and again.  Neither of
its two halves loses, adds or moves a term, so the leaves of a parsed tree are the terms of the
query in their order (`leaves_of_parse?`).  And the second half undoes the listing of a tree in
postfix order: from the tokens of a tree the stack gets that tree, whatever lies below
(`foldlM_push_postorder`), and as the trees on the stack keep all tokens
(`stackPostorder_foldlM_push`), it gets the tree from no other tokens
(`ofPostfix?_eq_some_iff_postorder`).

The first half has to do with parentheses alone: tokens with balanced parentheses always have a
postfix order (`exists_toPostfix`).
-/

namespace Retrieval.Query

/-! ## Terms pass unchanged -/

lemma filterMap_term?_released (waiting : List Waiting) :
    (waiting.filterMap Waiting.token?).filterMap Token.term? = [] := by
  rw [List.filterMap_filterMap, List.filterMap_eq_nil_iff]
  intro top _
  cases top <;> rfl

lemma filterMap_term?_closeGroup? {waiting kept : List Waiting} {released : List Token}
    (h : closeGroup? waiting = some (released, kept)) : released.filterMap Token.term? = [] := by
  induction waiting generalizing released with
  | nil => cases h
  | cons top rest ih =>
    cases top with
    | paren =>
      cases h
      rfl
    | operator op =>
      obtain ⟨⟨others, below⟩, hrest, hpair⟩ := Option.map_eq_some_iff.mp h
      cases hpair
      exact (List.filterMap_cons_none rfl).trans (ih hrest)

lemma filterMap_term?_releaseAll {waiting : List Waiting} {released : List Token}
    (h : releaseAll waiting = .ok released) : released.filterMap Token.term? = [] := by
  induction waiting generalizing released with
  | nil =>
    cases h
    rfl
  | cons top rest ih =>
    cases top with
    | paren => cases h
    | operator op =>
      obtain ⟨others, hrest, rfl⟩ := map_eq_ok.mp h
      exact (List.filterMap_cons_none rfl).trans (ih hrest)

/-- Postfix order keeps the terms and their order. -/
lemma filterMap_term?_postfixFrom {waiting : List Waiting} {tokens out : List Token}
    (h : postfixFrom waiting tokens = .ok out) :
    out.filterMap Token.term? = tokens.filterMap Token.term? := by
  induction tokens generalizing waiting out with
  | nil => exact filterMap_term?_releaseAll h
  | cons token rest ih =>
    cases token with
    | term value =>
      obtain ⟨others, hrest, rfl⟩ := map_eq_ok.mp h
      rw [List.filterMap_cons, List.filterMap_cons, ih hrest]
    | leftParen => exact ih h
    | rightParen =>
      rw [postfixFrom] at h
      cases hclose : closeGroup? waiting with
      | none =>
        rw [hclose] at h
        cases h
      | some closed =>
        obtain ⟨released, kept⟩ := closed
        rw [hclose] at h
        obtain ⟨others, hrest, rfl⟩ := map_eq_ok.mp h
        rw [List.filterMap_append, filterMap_term?_closeGroup? hclose, ih hrest]
        rfl
    | operator op =>
      obtain ⟨others, hrest, rfl⟩ := map_eq_ok.mp h
      rw [List.filterMap_append, filterMap_term?_released, ih hrest]
      rfl

/-! ## Balanced parentheses -/

/-- Whether the right parentheses among tokens close the left ones and as many more before them:
none comes too early, and none is missing. -/
structure Closes (pending : Nat) (tokens : List Token) : Prop where
  early : ∀ {front}, front <+: tokens →
    front.count .rightParen ≤ pending + front.count .leftParen
  total : tokens.count .rightParen = pending + tokens.count .leftParen

instance (pending : Nat) (tokens : List Token) : Decidable (Closes pending tokens) :=
  decidable_of_iff
    ((∀ front ∈ tokens.inits, front.count .rightParen ≤ pending + front.count .leftParen) ∧
      tokens.count .rightParen = pending + tokens.count .leftParen)
    ⟨fun h => ⟨fun hfront => h.1 _ ((List.mem_inits _ _).mpr hfront), h.2⟩,
      fun h => ⟨fun _ hfront => h.early ((List.mem_inits _ _).mp hfront), h.total⟩⟩

/-- Whether each parenthesis has its partner. -/
abbrev Balanced (tokens : List Token) : Prop :=
  Closes 0 tokens

lemma Closes.tail {pending later : Nat} {token : Token} {rest : List Token}
    (h : Closes pending (token :: rest))
    (hlater : later + [token].count .rightParen = pending + [token].count .leftParen) :
    Closes later rest where
  early {front} hfront := by
    have := h.early (List.cons_prefix_cons.mpr ⟨rfl, hfront⟩)
    rw [List.count_cons, List.count_cons] at this
    rw [List.count_singleton, List.count_singleton] at hlater
    omega
  total := by
    have := h.total
    rw [List.count_cons, List.count_cons] at this
    rw [List.count_singleton, List.count_singleton] at hlater
    omega

lemma exists_releaseAll {waiting : List Waiting} (h : waiting.count .paren = 0) :
    ∃ released, releaseAll waiting = .ok released := by
  induction waiting with
  | nil => exact ⟨[], rfl⟩
  | cons top rest ih =>
    cases top with
    | paren => simp at h
    | operator op =>
      rw [List.count_cons_of_ne (by simp)] at h
      obtain ⟨released, hreleased⟩ := ih h
      exact ⟨.operator op :: released, by rw [releaseAll, hreleased]; rfl⟩

lemma exists_closeGroup? {waiting : List Waiting} (h : 0 < waiting.count .paren) :
    ∃ released kept, closeGroup? waiting = some (released, kept) ∧
      kept.count .paren + 1 = waiting.count .paren := by
  induction waiting with
  | nil => simp at h
  | cons top rest ih =>
    cases top with
    | paren => exact ⟨[], rest, rfl, by rw [List.count_cons_self]⟩
    | operator op =>
      rw [List.count_cons_of_ne (by simp)] at h ⊢
      obtain ⟨released, kept, hclose, hcount⟩ := ih h
      exact ⟨.operator op :: released, kept, by rw [closeGroup?, hclose]; rfl, hcount⟩

/-- No operator makes a parenthesis leave. -/
lemma count_paren_dropWhile (op : Operator) (waiting : List Waiting) :
    (waiting.dropWhile (·.yieldsTo op)).count .paren = waiting.count .paren := by
  induction waiting with
  | nil => rfl
  | cons top rest ih =>
    cases top with
    | paren => rw [List.dropWhile_cons_of_neg (by simp [Waiting.yieldsTo])]
    | operator other =>
      rw [List.dropWhile_cons]
      split
      · rw [ih, List.count_cons_of_ne (by simp)]
      · rfl

lemma exists_postfixFrom {waiting : List Waiting} {tokens : List Token}
    (h : Closes (waiting.count .paren) tokens) : ∃ out, postfixFrom waiting tokens = .ok out := by
  induction tokens generalizing waiting with
  | nil =>
    have := h.total
    simp only [List.count_nil] at this
    exact exists_releaseAll (by omega)
  | cons token rest ih =>
    cases token with
    | term value =>
      obtain ⟨out, hout⟩ := ih (h.tail rfl)
      exact ⟨.term value :: out, by rw [postfixFrom, hout]; rfl⟩
    | leftParen =>
      have hopened : Closes (List.count .paren (.paren :: waiting)) rest := by
        refine h.tail ?_
        rw [List.count_cons_self]
        rfl
      exact ih hopened
    | rightParen =>
      have hfront : [Token.rightParen] <+: .rightParen :: rest := by simp
      have hearly := h.early hfront
      have hpending : 0 < waiting.count .paren := by simpa using hearly
      obtain ⟨released, kept, hclose, hcount⟩ := exists_closeGroup? hpending
      have hrest : Closes (kept.count .paren) rest := h.tail (by simpa using hcount)
      obtain ⟨out, hout⟩ := ih hrest
      exact ⟨released ++ out, by rw [postfixFrom, hclose]; simp only [hout]; rfl⟩
    | operator op =>
      have hkept : Closes
          (List.count .paren (.operator op :: waiting.dropWhile (·.yieldsTo op))) rest := by
        rw [List.count_cons_of_ne (by simp), count_paren_dropWhile]
        exact h.tail rfl
      obtain ⟨out, hout⟩ := ih hkept
      exact ⟨_, by rw [postfixFrom]; simp only [hout]; rfl⟩

/-- **Balanced tokens have a postfix order.** -/
theorem exists_toPostfix {tokens : List Token} (h : Balanced tokens) :
    ∃ out, toPostfix tokens = .ok out := by
  have hstart : Closes (([] : List Waiting).count .paren) tokens := h
  exact exists_postfixFrom hstart

namespace Tree

/-! ## Nodes and leaves -/

/-- The nodes of the trees on a stack in postfix order, the deepest tree first. -/
def stackPostorder (stack : List Tree) : List Token :=
  stack.reverse.flatMap postorder

/-- The leaves of the trees on a stack, the deepest tree first. -/
def stackLeaves (stack : List Tree) : List String :=
  stack.reverse.flatMap leaves

lemma stackPostorder_cons (top : Tree) (stack : List Tree) :
    stackPostorder (top :: stack) = stackPostorder stack ++ top.postorder := by
  simp [stackPostorder]

lemma stackPostorder_push {stack later : List Tree} {token : Token}
    (h : push stack token = .ok later) :
    stackPostorder later = stackPostorder stack ++ [token] := by
  cases token with
  | term value =>
    cases h
    exact stackPostorder_cons _ _
  | leftParen | rightParen => cases h
  | operator op =>
    cases op with
    | not =>
      match stack, h with
      | child :: rest, h =>
        cases h
        simp only [stackPostorder_cons, postorder, List.append_assoc]
    | and | or =>
      match stack, h with
      | right :: left :: rest, h =>
        cases h
        simp only [stackPostorder_cons, postorder, List.append_assoc]

/-- A run over tokens keeps them all: they are the nodes of the trees that it made. -/
lemma stackPostorder_foldlM_push {stack later : List Tree} {tokens : List Token}
    (h : tokens.foldlM push stack = .ok later) :
    stackPostorder later = stackPostorder stack ++ tokens := by
  induction tokens generalizing stack with
  | nil =>
    cases h
    exact (List.append_nil _).symm
  | cons token rest ih =>
    rw [List.foldlM_cons] at h
    obtain ⟨between, hfirst, hrest⟩ := bind_eq_ok.mp h
    rw [ih hrest, stackPostorder_push hfirst, List.append_assoc, List.singleton_append]

lemma filterMap_term?_postorder (tree : Tree) :
    tree.postorder.filterMap Token.term? = tree.leaves := by
  induction tree with
  | term value => rfl
  | and left right ihl ihr | or left right ihl ihr =>
    rw [postorder, leaves, List.filterMap_append, List.filterMap_append, ihl, ihr]
    exact List.append_nil _
  | not child ih =>
    rw [postorder, leaves, List.filterMap_append, ih]
    exact List.append_nil _

lemma filterMap_term?_stackPostorder (stack : List Tree) :
    (stackPostorder stack).filterMap Token.term? = stackLeaves stack := by
  rw [stackPostorder, stackLeaves, List.filterMap_flatMap]
  simp only [filterMap_term?_postorder]

lemma stackLeaves_foldlM_push {stack later : List Tree} {tokens : List Token}
    (h : tokens.foldlM push stack = .ok later) :
    stackLeaves later = stackLeaves stack ++ tokens.filterMap Token.term? := by
  rw [← filterMap_term?_stackPostorder, ← filterMap_term?_stackPostorder,
    stackPostorder_foldlM_push h, List.filterMap_append]

lemma ofPostfix?_eq_some {tokens : List Token} {tree : Tree} :
    ofPostfix? tokens = .ok (some tree) ↔ tokens.foldlM push [] = .ok [tree] := by
  rw [ofPostfix?, bind_eq_ok]
  constructor
  · rintro ⟨stack, hstack, h⟩
    match stack, h with
    | [root], h =>
      cases h
      exact hstack
  · exact fun h => ⟨[tree], h, rfl⟩

/-- **Terms and leaves.**  The leaves of a parsed tree are the terms of the query, in their
order. -/
theorem leaves_of_parse? {tokens : List Token} {tree : Tree}
    (h : parse? tokens = .ok (some tree)) : tree.leaves = tokens.filterMap Token.term? := by
  obtain ⟨out, hout, htree⟩ := bind_eq_ok.mp h
  have hleaves := stackLeaves_foldlM_push (ofPostfix?_eq_some.mp htree)
  rw [filterMap_term?_postfixFrom hout] at hleaves
  simpa [stackLeaves] using hleaves

/-! ## Listing a tree and reading it back -/

/-- The tokens of a tree in postfix order put that tree on the stack. -/
theorem foldlM_push_postorder (tree : Tree) (stack : List Tree) (rest : List Token) :
    (tree.postorder ++ rest).foldlM push stack = rest.foldlM push (tree :: stack) := by
  induction tree generalizing stack rest with
  | term value => rfl
  | and left right ihl ihr | or left right ihl ihr =>
    rw [postorder, List.append_assoc, List.append_assoc, ihl, ihr]
    rfl
  | not child ih =>
    rw [postorder, List.append_assoc, ih]
    rfl

/-- **Building inverts listing.**  A tree is built from its nodes in postfix order, and from nothing
else. -/
theorem ofPostfix?_eq_some_iff_postorder {tokens : List Token} {tree : Tree} :
    ofPostfix? tokens = .ok (some tree) ↔ tokens = tree.postorder := by
  rw [ofPostfix?_eq_some]
  constructor
  · intro h
    have hnodes := stackPostorder_foldlM_push h
    simpa [stackPostorder] using hnodes.symm
  · rintro rfl
    rw [← List.append_nil tree.postorder, foldlM_push_postorder]
    rfl

end Tree

/-! ## Terms of a query text -/

lemma mem_distinctTerms {tokens : List Token} {value : String} :
    value ∈ distinctTerms tokens ↔ .term value ∈ tokens := by
  rw [distinctTerms, mem_distinct, List.mem_filterMap]
  constructor
  · rintro ⟨token, htoken, hterm⟩
    cases token with
    | term other =>
      cases hterm
      exact htoken
    | operator op => cases hterm
    | leftParen | rightParen => cases hterm
  · exact fun h => ⟨.term value, h, rfl⟩

lemma Tree.mem_leaves_of_parse? {tokens : List Token} {tree : Tree}
    (h : Tree.parse? tokens = .ok (some tree)) {value : String} :
    value ∈ tree.leaves ↔ .term value ∈ tokens := by
  rw [leaves_of_parse? h, ← mem_distinct, ← distinctTerms, mem_distinctTerms]

lemma term?_delimiter? {piece : List Char} {token : Token} (h : delimiter? piece = some token) :
    token.term? = none := by
  rw [delimiter?] at h
  split_ifs at h <;> cases h <;> rfl

lemma term?_of_delimiter_mem {read pieces : List (List Char)} {token : Token}
    (h : .delimiter token ∈ lexemesFrom read pieces) : token.term? = none := by
  have hclosed : ∀ read : List (List Char), .delimiter token ∉ closedWord read := by
    intro read hmem
    rw [closedWord] at hmem
    split at hmem
    · simp at hmem
    · simp at hmem
  induction pieces generalizing read with
  | nil => exact absurd h (hclosed read)
  | cons piece rest ih =>
    rw [lexemesFrom] at h
    cases hpiece : delimiter? piece with
    | some found =>
      rw [hpiece] at h
      rcases List.mem_append.mp h with hword | htail
      · exact absurd hword (hclosed read)
      · rcases List.mem_cons.mp htail with hfound | hrest
        · obtain rfl := Lexeme.delimiter.inj hfound
          exact term?_delimiter? hpiece
        · exact ih hrest
    | none =>
      simp only [hpiece] at h
      split at h
      · rcases List.mem_append.mp h with hword | hrest
        · exact absurd hword (hclosed read)
        · exact ih hrest
      · exact ih h

/-- A term of a query is what its lemmatizer makes of a word of the query, unless that is empty. -/
lemma exists_word_of_mem_tokenize {lemmatizer : Stem.Lemmatizer} {query value : String}
    (h : .term value ∈ tokenize lemmatizer query) :
    ∃ text, .word text ∈ lexemes query.toList ∧ termOf lemmatizer text ≠ [] ∧
      value = String.ofList (termOf lemmatizer text) := by
  obtain ⟨lexeme, hlexeme, htoken⟩ := List.mem_filterMap.mp h
  cases lexeme with
  | delimiter token =>
    obtain rfl := Option.some.inj htoken
    exact absurd (term?_of_delimiter_mem hlexeme) (Option.some_ne_none value)
  | word text =>
    simp only [Lexeme.token?] at htoken
    split at htoken
    · cases htoken
    · rename_i hterm
      exact ⟨text, hlexeme, by simpa using hterm, (Token.term.inj (Option.some.inj htoken)).symm⟩

/-- The lexer makes no empty terms. -/
lemma ne_empty_of_mem_tokenize {lemmatizer : Stem.Lemmatizer} {query value : String}
    (h : .term value ∈ tokenize lemmatizer query) : value ≠ "" := by
  obtain ⟨text, -, hterm, rfl⟩ := exists_word_of_mem_tokenize h
  simpa using hterm

/-- No leaf of a tree that was read from a text is empty. -/
lemma ne_empty_of_mem_leaves {lemmatizer : Stem.Lemmatizer} {query : String} {tree : Tree}
    (h : Tree.parse? (tokenize lemmatizer query) = .ok (some tree)) {value : String}
    (hvalue : value ∈ tree.leaves) : value ≠ "" :=
  ne_empty_of_mem_tokenize ((Tree.mem_leaves_of_parse? h).mp hvalue)

end Retrieval.Query

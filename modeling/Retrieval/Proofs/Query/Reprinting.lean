import Mathlib.Tactic.Common
import Retrieval.Proofs.Query.Printing

/-!
# Which tree is read from a printed one

A printed tree is read as `leftNested`, the tree that grafting makes.  Here that tree is described
without grafting.  The `operands` of an operator at the root are the subtrees that a maximal chain
of it joins, from left to right.  Leaning to the left joins the same operands in the same order,
each leaning to the left itself, from the left on: `leftNested` is a function that `RenestsChains`.

A tree leans to the left already if no conjunction has a conjunction for its right operand, and no
disjunction a disjunction (`LeansLeft`).  These are the trees that leaning to the left leaves alone
(`leftNested_eq_self_iff`), and so the trees that are read back as they are.
-/

namespace Retrieval.Query

open Unicode (isCut isSettled_lowercase isWhiteSpace lowercase)

namespace Tree

/-! ## Chains -/

/-- What a chain of an operator at the root joins, from left to right; the tree itself if another
operator stands there, or none. -/
def operands (op : Operator) : Tree → List Tree
  | and left right =>
    if op = .and then left.operands op ++ right.operands op else [and left right]
  | or left right =>
    if op = .or then left.operands op ++ right.operands op else [or left right]
  | tree => [tree]

/-- Functions that nest every maximal chain of one binary operator to the left, with its operands,
which they nest likewise, in the same order.  Terms and negations stay. -/
structure RenestsChains (renest : Tree → Tree) : Prop where
  term : ∀ value, renest (.term value) = .term value
  not : ∀ child, renest (.not child) = .not (renest child)
  and : ∀ left right, ∃ first rest, (Tree.and left right).operands .and = first :: rest ∧
    renest (.and left right) = (rest.map renest).foldl .and (renest first)
  or : ∀ left right, ∃ first rest, (Tree.or left right).operands .or = first :: rest ∧
    renest (.or left right) = (rest.map renest).foldl .or (renest first)

/-- No conjunction has a conjunction for its right operand, and no disjunction a disjunction. -/
def LeansLeft : Tree → Prop
  | term _ => True
  | and left right => left.LeansLeft ∧ right.LeansLeft ∧ right.operator? ≠ some .and
  | or left right => left.LeansLeft ∧ right.LeansLeft ∧ right.operator? ≠ some .or
  | not child => child.LeansLeft

lemma operands_of_operator?_ne {op : Operator} {tree : Tree} (h : tree.operator? ≠ some op) :
    tree.operands op = [tree] := by
  cases tree with
  | term value | not child => rfl
  | and left right => exact if_neg fun hop => h (congrArg some hop.symm)
  | or left right => exact if_neg fun hop => h (congrArg some hop.symm)

lemma operands_ne_nil (op : Operator) (tree : Tree) : tree.operands op ≠ [] := by
  induction tree with
  | term value | not child => exact List.cons_ne_nil _ _
  | and left right ihl _ | or left right ihl _ =>
    rw [operands]
    split
    · exact List.append_ne_nil_of_left_ne_nil ihl _
    · exact List.cons_ne_nil _ _

/-! ## Grafting and chains -/

lemma graftAnd_of_operator?_ne {left right : Tree} (h : right.operator? ≠ some .and) :
    left.graftAnd right = and left right := by
  cases right with
  | and front last => exact absurd rfl h
  | term value | or front last | not child => rfl

lemma graftOr_of_operator?_ne {left right : Tree} (h : right.operator? ≠ some .or) :
    left.graftOr right = or left right := by
  cases right with
  | or front last => exact absurd rfl h
  | term value | and front last | not child => rfl

/-- Grafting appends the operands of one chain to those of the other. -/
lemma operands_graftAnd (left right : Tree) :
    (left.graftAnd right).operands .and = left.operands .and ++ right.operands .and := by
  induction right with
  | and front last ih _ =>
    rw [graftAnd, operands, if_pos rfl, ih, operands, if_pos rfl, List.append_assoc]
  | term value | or front last | not child => rfl

lemma operands_graftOr (left right : Tree) :
    (left.graftOr right).operands .or = left.operands .or ++ right.operands .or := by
  induction right with
  | or front last ih _ =>
    rw [graftOr, operands, if_pos rfl, ih, operands, if_pos rfl, List.append_assoc]
  | term value | and front last | not child => rfl

lemma leansLeft_graftAnd {left right : Tree} (hl : left.LeansLeft) (hr : right.LeansLeft) :
    (left.graftAnd right).LeansLeft := by
  induction right with
  | and front last ih _ => exact ⟨ih hr.1, hr.2⟩
  | term value | or front last | not child => exact ⟨hl, hr, nofun⟩

lemma leansLeft_graftOr {left right : Tree} (hl : left.LeansLeft) (hr : right.LeansLeft) :
    (left.graftOr right).LeansLeft := by
  induction right with
  | or front last ih _ => exact ⟨ih hr.1, hr.2⟩
  | term value | and front last | not child => exact ⟨hl, hr, nofun⟩

/-! ## Leaning to the left -/

/-- Leaning to the left keeps the operator at the root. -/
lemma operator?_leftNested (tree : Tree) : tree.leftNested.operator? = tree.operator? := by
  cases tree with
  | term value | not child => rfl
  | and left right =>
    obtain ⟨front, last, h⟩ := exists_graftAnd left.leftNested right.leftNested
    rw [leftNested, h]
    rfl
  | or left right =>
    obtain ⟨front, last, h⟩ := exists_graftOr left.leftNested right.leftNested
    rw [leftNested, h]
    rfl

/-- **What is nested to the left leans to the left.** -/
theorem leansLeft_leftNested (tree : Tree) : tree.leftNested.LeansLeft := by
  induction tree with
  | term value => trivial
  | and left right ihl ihr => exact leansLeft_graftAnd ihl ihr
  | or left right ihl ihr => exact leansLeft_graftOr ihl ihr
  | not child ih => exact ih

/-- A tree that leans to the left is left alone. -/
lemma leftNested_of_leansLeft {tree : Tree} (h : tree.LeansLeft) : tree.leftNested = tree := by
  induction tree with
  | term value => rfl
  | and left right ihl ihr =>
    rw [leftNested, ihl h.1, ihr h.2.1, graftAnd_of_operator?_ne h.2.2]
  | or left right ihl ihr =>
    rw [leftNested, ihl h.1, ihr h.2.1, graftOr_of_operator?_ne h.2.2]
  | not child ih => rw [leftNested, ih h]

/-- **The trees that are left alone** are those that lean to the left. -/
theorem leftNested_eq_self_iff {tree : Tree} : tree.leftNested = tree ↔ tree.LeansLeft :=
  ⟨fun h => h ▸ tree.leansLeft_leftNested, leftNested_of_leansLeft⟩

lemma operands_leftNested_of_operator?_ne {op : Operator} {tree : Tree}
    (h : tree.operator? ≠ some op) :
    tree.leftNested.operands op = (tree.operands op).map leftNested := by
  rw [operands_of_operator?_ne h, operands_of_operator?_ne (by rwa [operator?_leftNested])]
  rfl

/-- **The operands of a chain stay**, in their order, each leaning to the left itself. -/
theorem operands_leftNested (op : Operator) (tree : Tree) :
    tree.leftNested.operands op = (tree.operands op).map leftNested := by
  induction tree with
  | term value | not child => rfl
  | and left right ihl ihr =>
    by_cases hop : op = .and
    · subst hop
      rw [leftNested, operands_graftAnd, ihl, ihr, operands, if_pos rfl, List.map_append]
    · exact operands_leftNested_of_operator?_ne fun h => hop (Option.some.inj h).symm
  | or left right ihl ihr =>
    by_cases hop : op = .or
    · subst hop
      rw [leftNested, operands_graftOr, ihl, ihr, operands, if_pos rfl, List.map_append]
    · exact operands_leftNested_of_operator?_ne fun h => hop (Option.some.inj h).symm

/-! ## Chains to the left -/

/-- What is appended to the operands of a chain is joined to it at the end. -/
lemma foldl_append_singleton (make : Tree → Tree → Tree) {operands rest : List Tree}
    {first last : Tree} (h : operands ++ [last] = first :: rest) (hne : operands ≠ []) :
    ∃ others, operands = first :: others ∧
      rest.foldl make first = make (others.foldl make first) last := by
  obtain ⟨head, others, rfl⟩ := List.exists_cons_of_ne_nil hne
  obtain ⟨rfl, rfl⟩ := List.cons.inj h
  exact ⟨others, rfl, List.foldl_concat ..⟩

/-- A tree that leans to the left is the chain of its operands to the left. -/
lemma LeansLeft.eq_foldl_and {tree first : Tree} {rest : List Tree} (h : tree.LeansLeft)
    (hoperands : tree.operands .and = first :: rest) : tree = rest.foldl .and first := by
  induction tree generalizing rest with
  | term value | or left right | not child =>
    obtain ⟨rfl, rfl⟩ := List.cons.inj hoperands
    rfl
  | and left right ihl _ =>
    rw [operands, if_pos rfl, operands_of_operator?_ne h.2.2] at hoperands
    obtain ⟨others, hleft, hfold⟩ := foldl_append_singleton .and hoperands (operands_ne_nil _ _)
    rw [hfold, ← ihl h.1 hleft]

lemma LeansLeft.eq_foldl_or {tree first : Tree} {rest : List Tree} (h : tree.LeansLeft)
    (hoperands : tree.operands .or = first :: rest) : tree = rest.foldl .or first := by
  induction tree generalizing rest with
  | term value | and left right | not child =>
    obtain ⟨rfl, rfl⟩ := List.cons.inj hoperands
    rfl
  | or left right ihl _ =>
    rw [operands, if_pos rfl, operands_of_operator?_ne h.2.2] at hoperands
    obtain ⟨others, hleft, hfold⟩ := foldl_append_singleton .or hoperands (operands_ne_nil _ _)
    rw [hfold, ← ihl h.1 hleft]

/-- **Leaning to the left is re-nesting chains.** -/
theorem renestsChains_leftNested : RenestsChains leftNested where
  term _ := rfl
  not _ := rfl
  and left right := by
    obtain ⟨first, rest, hoperands⟩ := List.exists_cons_of_ne_nil
      (operands_ne_nil .and (.and left right))
    refine ⟨first, rest, hoperands, (leansLeft_leftNested _).eq_foldl_and ?_⟩
    rw [operands_leftNested, hoperands, List.map_cons]
  or left right := by
    obtain ⟨first, rest, hoperands⟩ := List.exists_cons_of_ne_nil
      (operands_ne_nil .or (.or left right))
    refine ⟨first, rest, hoperands, (leansLeft_leftNested _).eq_foldl_or ?_⟩
    rw [operands_leftNested, hoperands, List.map_cons]

/-! ## Reading back -/

/-- A term that stays as it is when it is read with no lemmatizer: it is not empty, it holds no
white space and no delimiter, and it is in lower case. -/
structure IsPlainTerm (value : String) : Prop where
  nonempty : value ≠ ""
  whole : ∀ c ∈ value.toList, isWhiteSpace c = false ∧ c ≠ '!' ∧ c ≠ '(' ∧ c ≠ ')'
  lowered : lowercase value.toList = value.toList

instance (value : String) : Decidable (IsPlainTerm value) :=
  decidable_of_iff
    (value ≠ "" ∧ value.toList.all (!isCut ·) = true ∧ lowercase value.toList = value.toList)
    ⟨fun ⟨hnonempty, hwhole, hlowered⟩ =>
        ⟨hnonempty, by simpa [isCut, and_assoc] using hwhole, hlowered⟩,
      fun h => ⟨h.nonempty, by simpa [isCut, and_assoc] using h.whole, h.lowered⟩⟩

lemma IsPlainTerm.legible {value : String} (h : IsPlainTerm value) :
    Legible .identity value where
  word := by
    refine isWord_of_settled (by simpa using h.nonempty) fun c hc => ⟨?_, ?_⟩
    · rw [← h.lowered] at hc
      exact isSettled_lowercase hc
    · simpa [isCut, and_assoc] using h.whole c hc
  lemmatized := by
    rw [termOf, Stem.Lemmatizer.identity, String.ofList_toList]
    exact h.lowered

/-- **Printing and reading back.**  Leaning to the left nests every chain of one operator to the
left.  A tree of plain terms is printed as a text that is read as this tree, which prints the same;
so it is read as itself exactly if it leans to the left already. -/
theorem printed_tree_reads_left_nested {tree : Tree}
    (h : ∀ value ∈ tree.leaves, IsPlainTerm value) :
    RenestsChains leftNested ∧
      parse? (tokenize .identity tree.text) = .ok (some tree.leftNested) ∧
      tree.leftNested.text = tree.text ∧
      (parse? (tokenize .identity tree.text) = .ok (some tree) ↔ tree.LeansLeft) := by
  have hread : parse? (tokenize .identity tree.text) = .ok (some tree.leftNested) := by
    rw [tokenize_text fun value hvalue => (h value hvalue).legible, parse?_tokens]
  refine ⟨renestsChains_leftNested, hread, congrArg String.ofList tree.chars_leftNested, ?_⟩
  rw [hread, Except.ok.injEq, Option.some.injEq, leftNested_eq_self_iff]

/-- Chains of both operators on the right, below a negation and beside each other. -/
theorem chains_on_the_right_are_read_nested :
    let tree : Tree :=
      .or (.and (.term "a") (.and (.not (.or (.term "b") (.or (.term "c") (.term "ΐ"))))
        (.term "and"))) (.or (.term "or_") (.term "é"))
    RenestsChains leftNested ∧
      parse? (tokenize .identity tree.text) = .ok (some tree.leftNested) ∧
      tree.leftNested.text = tree.text ∧
      (parse? (tokenize .identity tree.text) = .ok (some tree) ↔ tree.LeansLeft) := by
  intro tree
  have hplain : ∀ value ∈ tree.leaves, IsPlainTerm value := by decide +kernel
  exact printed_tree_reads_left_nested hplain

end Tree

end Retrieval.Query

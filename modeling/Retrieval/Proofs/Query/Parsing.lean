import Mathlib.Data.List.Chain
import Mathlib.Tactic.Common
import Retrieval.Proofs.Query.Conservation
import Retrieval.Proofs.Query.Grammar

/-!
# What the parser accepts

The parser gives every derived query its tree (`derived_query_has_its_tree`).  The converse fails:
the parser checks that parentheses balance and that operands suffice, but not where they stand.  It
reads `a !` as it reads `! a`, and `a b AND` as `a AND b`.

What it leaves unchecked is a matter of neighbours.  After an operand there may come a binary
operator or a right parenthesis, and everywhere else an operand has to begin: `Joined` says so of
all tokens that stand side by side.  An accepted query is derived by the grammar exactly if it is
joined (`accepted_query_is_derived_iff_joined`).

The proof reads joined tokens from left to right.  `Complete` says of tokens that they are a query
up to some parentheses that are still open, and `Awaits` that an operand makes them one.  Each token
turns one into the other (`Reading.step`), and the number of parentheses that are still open tells
how often the right one can come.
-/

namespace Retrieval.Query

/-! ## Neighbours -/

namespace Token

/-- Whether an operand can begin with the token. -/
def beginsOperand : Token → Bool
  | term _ | leftParen | operator .not => true
  | _ => false

/-- Whether an operand can end with the token. -/
def endsOperand : Token → Bool
  | term _ | rightParen => true
  | _ => false

/-- Whether a token may stand right behind another: after the end of an operand none begins, and
everywhere else one has to. -/
def Follows (first next : Token) : Prop :=
  next.beginsOperand = !first.endsOperand

instance (first next : Token) : Decidable (first.Follows next) :=
  inferInstanceAs (Decidable (_ = _))

/-- Goes on behind the end of an operand, or elsewhere, if the token may stand there. -/
def step? (held : Bool) (token : Token) : Option Bool :=
  if token.beginsOperand = !held then some token.endsOperand else none

lemma step?_eq_some {held later : Bool} {token : Token} :
    token.step? held = some later ↔
      token.beginsOperand = !held ∧ token.endsOperand = later := by
  unfold step?
  split
  · rename_i h
    simp [h]
  · rename_i h
    simp [h]

end Token

/-- Whether all tokens that stand side by side fit. -/
def Joined (tokens : List Token) : Prop :=
  tokens.IsChain Token.Follows

instance (tokens : List Token) : Decidable (Joined tokens) :=
  inferInstanceAs (Decidable (tokens.IsChain Token.Follows))

/-- Goes on over tokens as long as they fit. -/
def run (held : Bool) (tokens : List Token) : Option Bool :=
  tokens.foldlM (fun held token => token.step? held) held

lemma run_cons {held : Bool} {token : Token} {rest : List Token} :
    run held (token :: rest) = (token.step? held).bind fun later => run later rest := rfl

lemma run_append {held : Bool} (before after : List Token) :
    run held (before ++ after) = (run held before).bind fun later => run later after :=
  List.foldlM_append

/-- Tokens that fit behind a token are joined to it. -/
lemma isSome_run_iff {first : Token} {rest : List Token} :
    (run first.endsOperand rest).isSome = true ↔ Joined (first :: rest) := by
  induction rest generalizing first with
  | nil => simp [run, Joined]
  | cons next rest ih =>
    rw [run_cons, Joined, List.isChain_cons_cons, ← Joined, ← ih, Token.step?, Token.Follows]
    split
    · rename_i h
      simp [h]
    · rename_i h
      simp [h]

/-- Joined tokens fit, if they begin as they may. -/
lemma exists_run_of_joined {first : Token} {rest : List Token} (h : Joined (first :: rest)) :
    ∃ later, run (!first.beginsOperand) (first :: rest) = some later := by
  obtain ⟨later, hlater⟩ := Option.isSome_iff_exists.mp (isSome_run_iff.mpr h)
  refine ⟨later, ?_⟩
  have hfirst : first.step? (!first.beginsOperand) = some first.endsOperand :=
    Token.step?_eq_some.mpr ⟨(Bool.not_not _).symm, rfl⟩
  rw [run_cons, hfirst, Option.bind_some, hlater]

lemma joined_of_run {held later : Bool} {tokens : List Token} (h : run held tokens = some later) :
    Joined tokens := by
  cases tokens with
  | nil => exact List.isChain_nil
  | cons first rest =>
    rw [run_cons, Option.bind_eq_some_iff] at h
    obtain ⟨between, hfirst, hrest⟩ := h
    obtain ⟨-, rfl⟩ := Token.step?_eq_some.mp hfirst
    exact isSome_run_iff.mp (Option.isSome_of_eq_some hrest)

/-- Where operands stand as they should, each binary operator has one before it and one behind. -/
lemma count_terms_of_run {held later : Bool} {tokens : List Token}
    (h : run held tokens = some later) :
    tokens.countP Token.isTerm + held.toNat = tokens.countP Token.isBinary + later.toNat := by
  induction tokens generalizing held with
  | nil =>
    obtain rfl := Option.some.inj h
    rfl
  | cons token rest ih =>
    rw [run_cons, Option.bind_eq_some_iff] at h
    obtain ⟨between, hfirst, hrest⟩ := h
    obtain ⟨hbegins, rfl⟩ := Token.step?_eq_some.mp hfirst
    have hothers := ih hrest
    have hone : [token].countP Token.isTerm + held.toNat
        = [token].countP Token.isBinary + token.endsOperand.toNat := by
      obtain rfl : held = !token.beginsOperand := by rw [hbegins, Bool.not_not]
      match token with
      | .term _ | .leftParen | .rightParen | .operator .not | .operator .and | .operator .or => rfl
    rw [← List.singleton_append, List.countP_append, List.countP_append]
    omega

/-! ## Derived tokens are joined -/

/-- Derived tokens are an operand from beginning to end. -/
lemma Derives.run_eq {op : Operator} {tokens : List Token} {tree : Tree}
    (h : Derives op tokens tree) : run false tokens = some true := by
  induction h with
  | term value => rfl
  | group _ ih =>
    rw [run_cons, Token.step?, if_pos (by rfl), Option.bind_some, run_append]
    change (run false _).bind _ = _
    rw [ih]
    rfl
  | not _ ih =>
    rw [run_cons, Token.step?, if_pos (by rfl), Option.bind_some]
    exact ih
  | unit _ ih => exact ih
  | conjunction _ ih => exact ih
  | and _ _ ihl ihr | or _ _ ihl ihr =>
    rw [run_append, ihl, Option.bind_some, run_cons, Token.step?, if_pos (by rfl), Option.bind_some]
    exact ihr

/-! ## Joined tokens are derived -/

/-- Whether tokens are a query up to as many parentheses that are still open. -/
def Complete : Nat → List Token → Prop
  | 0, tokens => ∃ tree, Derives .or tokens tree
  | depth + 1, tokens => ∃ before inner tree, tokens = before ++ .leftParen :: inner ∧
      Derives .or inner tree ∧
      ∀ unit tree, Derives .not unit tree → Complete depth (before ++ unit)

/-- Whether an operand makes tokens a query up to as many parentheses that are still open. -/
def Awaits (depth : Nat) (tokens : List Token) : Prop :=
  ∀ unit tree, Derives .not unit tree → Complete depth (tokens ++ unit)

/-- A query goes on with a binary operator and an operand. -/
lemma Derives.exists_join {op : Operator} (hop : op ≠ .not) {tokens unit : List Token}
    {tree operand : Tree} (h : Derives .or tokens tree) (hunit : Derives .not unit operand) :
    ∃ joined, Derives .or (tokens ++ .operator op :: unit) joined := by
  cases op with
  | not => exact absurd rfl hop
  | or => exact ⟨_, .or h (.unit hunit)⟩
  | and =>
    -- the operator binds to the last conjunction alone
    cases h with
    | conjunction h => exact ⟨_, .conjunction (.and h hunit)⟩
    | or hl hr =>
      rw [List.append_assoc, List.cons_append]
      exact ⟨_, .or hl (.and hr hunit)⟩

lemma Complete.awaits {depth : Nat} {tokens : List Token} (h : Complete depth tokens)
    {op : Operator} (hop : op ≠ .not) : Awaits depth (tokens ++ [.operator op]) := by
  intro unit operand hunit
  rw [List.append_assoc, List.singleton_append]
  cases depth with
  | zero =>
    obtain ⟨tree, htree⟩ := h
    exact htree.exists_join hop hunit
  | succ depth =>
    obtain ⟨before, inner, tree, rfl, htree, hbefore⟩ := h
    obtain ⟨joined, hjoined⟩ := htree.exists_join hop hunit
    exact ⟨before, _, joined, by rw [List.append_assoc, List.cons_append], hjoined, hbefore⟩

lemma Awaits.not {depth : Nat} {tokens : List Token} (h : Awaits depth tokens) :
    Awaits depth (tokens ++ [.operator .not]) := by
  intro unit operand hunit
  rw [List.append_assoc, List.singleton_append]
  exact h _ _ hunit.not

lemma Awaits.open {depth : Nat} {tokens : List Token} (h : Awaits depth tokens) :
    Awaits (depth + 1) (tokens ++ [.leftParen]) := by
  intro unit operand hunit
  rw [List.append_assoc, List.singleton_append]
  exact ⟨tokens, unit, operand, rfl, .conjunction (.unit hunit), h⟩

lemma Complete.close {depth : Nat} {tokens : List Token} (h : Complete (depth + 1) tokens) :
    Complete depth (tokens ++ [.rightParen]) := by
  obtain ⟨before, inner, tree, rfl, htree, hbefore⟩ := h
  rw [List.append_assoc, List.cons_append]
  exact hbefore _ _ (.group htree)

/-- What tokens are, by whether an operand has just ended. -/
def Reading (held : Bool) (depth : Nat) (tokens : List Token) : Prop :=
  if held then Complete depth tokens else Awaits depth tokens

/-- **One more token** that fits. -/
theorem Reading.step {held later : Bool} {depth deeper : Nat} {tokens : List Token} {next : Token}
    (h : Reading held depth tokens) (hnext : next.step? held = some later)
    (hdepth : deeper + [next].count .rightParen = depth + [next].count .leftParen) :
    Reading later deeper (tokens ++ [next]) := by
  obtain ⟨hbegins, rfl⟩ := Token.step?_eq_some.mp hnext
  obtain rfl : held = !next.beginsOperand := by rw [hbegins, Bool.not_not]
  match next with
  | .term value =>
    obtain rfl : deeper = depth := hdepth
    exact h _ _ (.term value)
  | .leftParen =>
    obtain rfl : deeper = depth + 1 := hdepth
    exact Awaits.open h
  | .rightParen =>
    obtain rfl : deeper + 1 = depth := hdepth
    exact Complete.close h
  | .operator .not =>
    obtain rfl : deeper = depth := hdepth
    exact Awaits.not h
  | .operator .and | .operator .or =>
    obtain rfl : deeper = depth := hdepth
    exact Complete.awaits h (by decide)

/-- **All tokens to the end**: no parenthesis is left open. -/
theorem Reading.run {held later : Bool} {depth : Nat} {before rest : List Token}
    (h : Reading held depth before) (hrun : Query.run held rest = some later)
    (hcloses : Closes depth rest) : Reading later 0 (before ++ rest) := by
  induction rest generalizing held depth before with
  | nil =>
    obtain rfl := Option.some.inj hrun
    obtain rfl : 0 = depth := hcloses.total
    rwa [List.append_nil]
  | cons next rest ih =>
    rw [run_cons, Option.bind_eq_some_iff] at hrun
    obtain ⟨between, hnext, hrun⟩ := hrun
    have hearly : [next].count .rightParen ≤ depth + [next].count .leftParen :=
      hcloses.early (by simp)
    obtain ⟨deeper, hdeeper⟩ := Nat.exists_eq_add_of_le' hearly
    have hstep := h.step hnext hdeeper.symm
    rw [← List.singleton_append, ← List.append_assoc]
    exact ih hstep hrun (hcloses.tail hdeeper.symm)

/-- Balanced tokens are derived if they are an operand from beginning to end. -/
theorem exists_derives {tokens : List Token} (hrun : run false tokens = some true)
    (hbalanced : Balanced tokens) : ∃ tree, Derives .or tokens tree := by
  have hstart : Reading false 0 [] := fun unit operand hunit =>
    ⟨operand, .conjunction (.unit hunit)⟩
  exact hstart.run hrun hbalanced

/-! ## Derived queries are accepted -/

/-- **Every derived query gets the tree of its derivation**, and there is no other tree that is
derived for it. -/
theorem derived_query_has_its_tree {tokens : List Token} {tree : Tree}
    (h : Derives .or tokens tree) :
    Tree.parse? tokens = .ok (some tree) ∧ ∀ other, Derives .or tokens other → other = tree := by
  refine ⟨h.parse?_eq, fun other hother => ?_⟩
  have hsame := hother.parse?_eq.symm.trans h.parse?_eq
  exact Option.some.inj (Except.ok.inj hsame)

/-- The query `a OR !!(b OR c) AND d AND ((e)) OR f`. -/
theorem nested_query_has_its_tree :
    let tokens : List Token := [.term "a", .operator .or, .operator .not, .operator .not,
      .leftParen, .term "b", .operator .or, .term "c", .rightParen, .operator .and, .term "d",
      .operator .and, .leftParen, .leftParen, .term "e", .rightParen, .rightParen, .operator .or,
      .term "f"]
    let tree : Tree := .or (.or (.term "a")
      (.and (.and (.not (.not (.or (.term "b") (.term "c")))) (.term "d")) (.term "e"))) (.term "f")
    Derives .or tokens tree ∧ Tree.parse? tokens = .ok (some tree) ∧
      ∀ other, Derives .or tokens other → other = tree := by
  intro tokens tree
  have hterm : ∀ value, Derives .or [.term value] (.term value) := fun value =>
    .conjunction (.unit (.term value))
  have hchoice : Derives .or [.term "b", .operator .or, .term "c"] (.or (.term "b") (.term "c")) :=
    .or (hterm "b") (.unit (.term "c"))
  have hchain := Derives.and (.and (.unit (.not (.not (.group hchoice)))) (.term "d"))
    (.group (.conjunction (.unit (.group (hterm "e")))))
  have htree : Derives .or tokens tree := .or (.or (hterm "a") hchain) (.unit (.term "f"))
  exact ⟨htree, derived_query_has_its_tree htree⟩

/-! ## Accepted queries -/

/-- An accepted query that is joined is derived. -/
lemma derives_of_joined {tokens : List Token} {tree : Tree}
    (h : Tree.parse? tokens = .ok (some tree)) (hjoined : Joined tokens) :
    Derives .or tokens tree := by
  obtain ⟨out, hout, -⟩ := bind_eq_ok.mp h
  have hcount := Tree.count_terms_of_parse? h
  cases tokens with
  | nil => simp at hcount
  | cons first rest =>
    obtain ⟨later, hrun⟩ := exists_run_of_joined hjoined
    have hends := count_terms_of_run hrun
    -- one term is left over, so an operand begins with the first token and one ends with the last
    obtain ⟨hbegins, rfl⟩ : first.beginsOperand = true ∧ later = true := by
      cases hfirst : first.beginsOperand <;> cases later <;>
        simp only [hfirst, Bool.not_true, Bool.not_false, Bool.toNat_true, Bool.toNat_false]
          at hends <;> first | omega | exact ⟨rfl, rfl⟩
    rw [hbegins] at hrun
    obtain ⟨found, hfound⟩ := exists_derives hrun (balanced_of_toPostfix hout)
    obtain rfl := Option.some.inj (Except.ok.inj (h.symm.trans hfound.parse?_eq))
    exact hfound

/-- **Where an accepted query is derived.**  An accepted query is derived by the grammar exactly if
its neighbours fit; and tokens with a term whose neighbours fit, but that are not derived, are
refused. -/
theorem accepted_query_is_derived_iff_joined (tokens : List Token) :
    (∀ tree, Tree.parse? tokens = .ok (some tree) → (Derives .or tokens tree ↔ Joined tokens)) ∧
      (Joined tokens → (∃ value, .term value ∈ tokens) → (¬ ∃ tree, Derives .or tokens tree) →
        ∃ reason, Tree.parse? tokens = .error reason) := by
  constructor
  · intro tree htree
    exact ⟨fun h => joined_of_run h.run_eq, derives_of_joined htree⟩
  · rintro hjoined ⟨value, hvalue⟩ hunderived
    cases hparse : Tree.parse? tokens with
    | error reason => exact ⟨reason, rfl⟩
    | ok found =>
      cases found with
      | none => exact absurd hvalue (Tree.not_mem_of_parse?_none hparse value)
      | some tree => exact absurd ⟨tree, derives_of_joined hparse hjoined⟩ hunderived

/-- The query `!(a OR b AND`, in which an operand and a parenthesis are missing. -/
theorem unfinished_query_is_refused :
    let tokens : List Token := [.operator .not, .leftParen, .term "a", .operator .or, .term "b",
      .operator .and]
    ∃ reason, Tree.parse? tokens = .error reason := by
  intro tokens
  have hunderived : ¬ ∃ tree, Derives .or tokens tree := by
    rintro ⟨tree, htree⟩
    have hrun : run false tokens = some false := by decide
    rw [htree.run_eq] at hrun
    cases hrun
  exact (accepted_query_is_derived_iff_joined tokens).2 (by decide) ⟨"a", by decide⟩ hunderived

/-- A negation behind its operand, operands side by side with their operator behind or before both,
and parentheses around nothing: all are accepted, and none is derived. -/
theorem misplaced_tokens_are_accepted :
    (Tree.parse? [.term "a", .operator .not] = .ok (some (.not (.term "a"))) ∧
      ¬ ∃ tree, Derives .or [.term "a", .operator .not] tree) ∧
    (Tree.parse? [.term "a", .term "b", .operator .and]
        = .ok (some (.and (.term "a") (.term "b"))) ∧
      ¬ ∃ tree, Derives .or [.term "a", .term "b", .operator .and] tree) ∧
    (Tree.parse? [.operator .and, .term "a", .term "b"]
        = .ok (some (.and (.term "a") (.term "b"))) ∧
      ¬ ∃ tree, Derives .or [.operator .and, .term "a", .term "b"] tree) ∧
    Tree.parse? [.leftParen, .rightParen, .term "a"] = .ok (some (.term "a")) ∧
      ¬ ∃ tree, Derives .or [.leftParen, .rightParen, .term "a"] tree := by
  have hunderived : ∀ {tokens : List Token}, ¬ Joined tokens →
      ¬ ∃ tree, Derives .or tokens tree := by
    rintro tokens hjoined ⟨tree, htree⟩
    exact hjoined (joined_of_run htree.run_eq)
  exact ⟨⟨by decide, hunderived (by decide)⟩, ⟨by decide, hunderived (by decide)⟩,
    ⟨by decide, hunderived (by decide)⟩, by decide, hunderived (by decide)⟩

end Retrieval.Query

import Mathlib.Tactic.Common
import Retrieval.Proofs.Query.Postfix

/-!
# The grammar of queries

A query is a disjunction of conjunctions of units, where a unit is a term, a negated unit or a query
in parentheses.  `Derives` reads tokens by this grammar; its level is the weakest operator that may
stand outside parentheses.  Equal operators associate to the left, and negation binds the tightest.

Bringing derived tokens into postfix order lists the derived tree (`Derives.toPostfix`).  The
invariant is `Reads`: over a stack that holds a level back, derived tokens put out a first part of
their tree in postfix order and leave the operators of the rest waiting, none of them weaker than
the level.  So an operator of that level makes exactly those leave, and what lay below stays.
-/

namespace Retrieval.Query

/-- Which tokens a tree is read from, at the level of an operator. -/
inductive Derives : Operator → List Token → Tree → Prop
  | term (value : String) : Derives .not [.term value] (.term value)
  | group {tokens : List Token} {tree : Tree} :
    Derives .or tokens tree → Derives .not (.leftParen :: (tokens ++ [.rightParen])) tree
  | not {tokens : List Token} {tree : Tree} :
    Derives .not tokens tree → Derives .not (.operator .not :: tokens) (.not tree)
  | unit {tokens : List Token} {tree : Tree} :
    Derives .not tokens tree → Derives .and tokens tree
  | and {before after : List Token} {left right : Tree} :
    Derives .and before left → Derives .not after right →
    Derives .and (before ++ .operator .and :: after) (.and left right)
  | conjunction {tokens : List Token} {tree : Tree} :
    Derives .and tokens tree → Derives .or tokens tree
  | or {before after : List Token} {left right : Tree} :
    Derives .or before left → Derives .and after right →
    Derives .or (before ++ .operator .or :: after) (.or left right)

/-! ## Stacks that hold an operator back -/

/-- Whether nothing on the stack makes way for an operator. -/
def Holds (op : Operator) (waiting : List Waiting) : Prop :=
  ∀ top ∈ waiting.head?, top.yieldsTo op = false

/-- What holds an operator back holds every stronger one back. -/
lemma Holds.mono {op stronger : Operator} {waiting : List Waiting} (h : Holds op waiting)
    (hstrength : op.strength ≤ stronger.strength) (hop : op ≠ .not) : Holds stronger waiting := by
  intro top htop
  have hyields := h top htop
  cases top with
  | paren => rfl
  | operator other =>
    simp only [Waiting.yieldsTo, if_neg hop, decide_eq_false_iff_not] at hyields
    rw [Waiting.yieldsTo]
    split
    · exact decide_eq_false (by omega)
    · exact decide_eq_false (by omega)

lemma takeWhile_of_holds {op : Operator} {waiting : List Waiting} (h : Holds op waiting) :
    waiting.takeWhile (·.yieldsTo op) = [] := by
  cases waiting with
  | nil => rfl
  | cons top rest => exact List.takeWhile_cons_of_neg (by simp [h top rfl])

lemma dropWhile_of_holds {op : Operator} {waiting : List Waiting} (h : Holds op waiting) :
    waiting.dropWhile (·.yieldsTo op) = waiting := by
  cases waiting with
  | nil => rfl
  | cons top rest => exact List.dropWhile_cons_of_neg (by simp [h top rfl])

/-! ## What waits above them -/

lemma filterMap_token?_operator (pending : List Operator) :
    (pending.map Waiting.operator).filterMap Waiting.token? = pending.map Token.operator := by
  rw [List.filterMap_map]
  exact congrFun (List.filterMap_eq_map (f := Token.operator)) pending

lemma closeGroup?_append (pending : List Operator) (waiting : List Waiting) :
    closeGroup? (pending.map Waiting.operator ++ .paren :: waiting)
      = some (pending.map Token.operator, waiting) := by
  induction pending with
  | nil => rfl
  | cons op rest ih =>
    rw [List.map_cons, List.cons_append, closeGroup?, ih]
    rfl

lemma releaseAll_operators (pending : List Operator) :
    releaseAll (pending.map Waiting.operator) = .ok (pending.map Token.operator) := by
  induction pending with
  | nil => rfl
  | cons op rest ih =>
    rw [List.map_cons, releaseAll, ih]
    rfl

/-- A binary operator makes all operators leave that are not weaker. -/
lemma postfixFrom_operator {op : Operator} (hop : op ≠ .not) {pending : List Operator}
    (hpending : ∀ other ∈ pending, op.strength ≤ other.strength) {waiting : List Waiting}
    (hwaiting : Holds op waiting) (rest : List Token) :
    postfixFrom (pending.map Waiting.operator ++ waiting) (.operator op :: rest)
      = (postfixFrom (.operator op :: waiting) rest).map (pending.map Token.operator ++ ·) := by
  have hyield : ∀ top ∈ pending.map Waiting.operator, top.yieldsTo op = true := by
    intro top htop
    obtain ⟨other, hother, rfl⟩ := List.mem_map.mp htop
    rw [Waiting.yieldsTo, if_neg hop]
    exact decide_eq_true (hpending other hother)
  rw [postfixFrom, List.takeWhile_append_of_pos hyield, List.dropWhile_append_of_pos hyield,
    takeWhile_of_holds hwaiting, dropWhile_of_holds hwaiting, List.append_nil,
    filterMap_token?_operator]

/-! ## The invariant -/

/-- How tokens are read at the level of an operator: what they put out, and which operators they
leave waiting, the latest first. -/
structure Reads (op : Operator) (tokens out : List Token) (pending : List Operator) : Prop where
  strong : ∀ other ∈ pending, op.strength ≤ other.strength
  read : ∀ {waiting}, Holds op waiting → ∀ rest, postfixFrom waiting (tokens ++ rest)
    = (postfixFrom (pending.map Waiting.operator ++ waiting) rest).map (out ++ ·)

namespace Reads

variable {op : Operator} {tokens out : List Token} {pending : List Operator}

lemma term (value : String) : Reads .not [.term value] [.term value] [] where
  strong := by simp
  read _ _ := rfl

lemma not (h : Reads .not tokens out pending) :
    Reads .not (.operator .not :: tokens) out (pending ++ [.not]) where
  strong := by
    intro other hother
    rcases List.mem_append.mp hother with hold | hnew
    · exact h.strong other hold
    · rw [List.mem_singleton.mp hnew]
  read {waiting} hwaiting rest := by
    have hheld : Holds .not (.operator .not :: waiting) := by
      rintro top ⟨⟩
      rfl
    rw [List.cons_append, postfixFrom, takeWhile_of_holds hwaiting, dropWhile_of_holds hwaiting,
      h.read hheld, List.map_append, List.append_assoc]
    exact map_map _ _ _

/-- Tokens may be read at a weaker level. -/
lemma weaken {stronger : Operator} (h : Reads stronger tokens out pending)
    (hstrength : op.strength ≤ stronger.strength) (hop : op ≠ .not) :
    Reads op tokens out pending where
  strong other hother := hstrength.trans (h.strong other hother)
  read hwaiting rest := h.read (hwaiting.mono hstrength hop) rest

/-- The right parenthesis makes all leave that waits above its partner. -/
lemma group (h : Reads .or tokens out pending) :
    Reads .not (.leftParen :: (tokens ++ [.rightParen]))
      (out ++ pending.map Token.operator) [] where
  strong := by simp
  read {waiting} hwaiting rest := by
    have hheld : Holds .or (.paren :: waiting) := by
      rintro top ⟨⟩
      rfl
    rw [List.cons_append, List.append_assoc, postfixFrom, List.singleton_append, h.read hheld,
      postfixFrom, closeGroup?_append]
    simp only [map_map, Function.comp_def, List.append_assoc]
    rfl

/-- Two operands and the operator between them, which holds the stronger level back. -/
lemma join {stronger : Operator} {after outAfter : List Token} {pendingAfter : List Operator}
    (hleft : Reads op tokens out pending) (hright : Reads stronger after outAfter pendingAfter)
    (hop : op ≠ .not) (hstrength : op.strength < stronger.strength) :
    Reads op (tokens ++ .operator op :: after) (out ++ (pending.map Token.operator ++ outAfter))
      (pendingAfter ++ [op]) where
  strong := by
    intro other hother
    rcases List.mem_append.mp hother with hafter | hself
    · exact hstrength.le.trans (hright.strong other hafter)
    · rw [List.mem_singleton.mp hself]
  read {waiting} hwaiting rest := by
    have hheld : Holds stronger (.operator op :: waiting) := by
      rintro top ⟨⟩
      rw [Waiting.yieldsTo]
      split
      · exact decide_eq_false (by omega)
      · exact decide_eq_false (by omega)
    rw [List.append_assoc, hleft.read hwaiting, List.cons_append,
      postfixFrom_operator hop hleft.strong hwaiting, hright.read hheld, List.map_append,
      List.append_assoc]
    simp only [map_map, Function.comp_def, List.append_assoc]
    rfl

end Reads

namespace Derives

/-- Derived tokens are read; what they put out and what they leave waiting is their tree. -/
theorem exists_reads {op : Operator} {tokens : List Token} {tree : Tree}
    (h : Derives op tokens tree) :
    ∃ out pending, Reads op tokens out pending ∧
      out ++ pending.map Token.operator = tree.postorder := by
  induction h with
  | term value => exact ⟨_, _, Reads.term value, rfl⟩
  | group _ ih =>
    obtain ⟨out, pending, hreads, hout⟩ := ih
    exact ⟨_, _, hreads.group, by rw [hout]; exact List.append_nil _⟩
  | not _ ih =>
    obtain ⟨out, pending, hreads, hout⟩ := ih
    refine ⟨_, _, hreads.not, ?_⟩
    rw [Tree.postorder, ← hout, List.map_append, List.append_assoc]
    rfl
  | unit _ ih =>
    obtain ⟨out, pending, hreads, hout⟩ := ih
    exact ⟨_, _, hreads.weaken (by decide) (by decide), hout⟩
  | conjunction _ ih =>
    obtain ⟨out, pending, hreads, hout⟩ := ih
    exact ⟨_, _, hreads.weaken (by decide) (by decide), hout⟩
  | and _ _ ihl ihr | or _ _ ihl ihr =>
    obtain ⟨outl, pendingl, hreadsl, houtl⟩ := ihl
    obtain ⟨outr, pendingr, hreadsr, houtr⟩ := ihr
    refine ⟨_, _, hreadsl.join hreadsr (by decide) (by decide), ?_⟩
    rw [Tree.postorder, ← houtl, ← houtr]
    simp only [List.map_append, List.append_assoc]
    rfl

/-- **Derived tokens have the postfix order of their tree.** -/
theorem toPostfix {tokens : List Token} {tree : Tree} (h : Derives .or tokens tree) :
    toPostfix tokens = .ok tree.postorder := by
  obtain ⟨out, pending, hreads, hout⟩ := h.exists_reads
  have hempty : Holds .or [] := by rintro top ⟨⟩
  have hread := hreads.read hempty []
  rw [List.append_nil, List.append_nil, postfixFrom, releaseAll_operators] at hread
  rw [Query.toPostfix, hread, ← hout]
  rfl

/-- Derived tokens are parsed to their tree. -/
lemma parse?_eq {tokens : List Token} {tree : Tree} (h : Derives .or tokens tree) :
    Tree.parse? tokens = .ok (some tree) := by
  rw [Tree.parse?, h.toPostfix, ok_bind, Tree.ofPostfix?_eq_some_iff_postorder]

end Derives

end Retrieval.Query

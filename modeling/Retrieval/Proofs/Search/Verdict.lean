import Mathlib.Tactic.Common
import Retrieval.Proofs.Index.Obtained
import Retrieval.Proofs.Query.Conservation
import Retrieval.Proofs.Search.Overflow

/-!
# What a query comes to

Whether a query is answered, asks for nothing or is refused does not depend on what an index holds,
but on the tokens of the query, the mode and the layout of the postings.  `due` tells it from these:
in the boolean mode by the parser, in the ranked mode by four questions in their order.  The verdict
on every search is the one that is due (`verdict_search`).

Nothing that an index holds is ever to blame, so no search ends in an error of decoding, of files or
of JSON (`isQueryError_of_search`), and over an index that can be measured none stops.
-/

namespace Retrieval.Search

open Query (Balanced Token Tree tokenize)
open Posting (Representation Store)

/-! ## Verdicts -/

/-- What a search comes to, told without what it finds. -/
inductive Verdict where
  | emptyQuery
  | found
  | refused (kind : ErrorKind)
  | stopped (fault : Fault)
  deriving Repr, DecidableEq

/-- The verdict on an answer. -/
def verdict : Except (Failure Error) Outcome → Verdict
  | .ok .emptyQuery => .emptyQuery
  | .ok (.found _) => .found
  | .error (.error reason) => .refused reason.kind
  | .error (.fault fault) => .stopped fault

/-- The verdict that is due to the tokens of a query. -/
def due (representation : Representation) (tokens : List Token) : Mode → Verdict
  | .boolean =>
    if Balanced tokens ∧ ∀ token ∈ tokens, token.isParenthesis = true then .emptyQuery
    else
      match Tree.parse? tokens with
      | .error _ => .refused .malformedQuery
      | .ok _ => .found
  | .ranked =>
    if .operator .or ∈ tokens ∨ .operator .not ∈ tokens then .refused .unsupported
    else if ¬ Balanced tokens then .refused .malformedQuery
    else if ∀ token ∈ tokens, token.isTerm = false then .emptyQuery
    else if representation ≠ .positional then .refused .unsupported
    else .found

/-- Only the query is to blame, and nothing stops. -/
lemma due_mem (representation : Representation) (tokens : List Token) (mode : Mode) :
    due representation tokens mode ∈
      [.emptyQuery, .found, .refused .malformedQuery, .refused .unsupported] := by
  cases mode with
  | boolean =>
    rw [due]
    split
    · simp
    · split <;> simp
  | ranked =>
    rw [due]
    split_ifs <;> simp

/-- In the boolean mode the parser decides. -/
lemma due_boolean (representation : Representation) (tokens : List Token) :
    due representation tokens .boolean =
      match Tree.parse? tokens with
      | .error _ => .refused .malformedQuery
      | .ok none => .emptyQuery
      | .ok (some _) => .found := by
  simp only [due, ← Tree.parse?_eq_none_iff]
  cases Tree.parse? tokens with
  | error reason => simp
  | ok found => cases found <;> simp

/-- In the boolean mode a query is refused exactly if the parser refuses it. -/
lemma due_boolean_eq_refused {representation : Representation} {tokens : List Token} :
    due representation tokens .boolean = .refused .malformedQuery ↔
      ∃ reason, Tree.parse? tokens = .error reason := by
  rw [due_boolean]
  cases Tree.parse? tokens with
  | error reason => simp
  | ok found => cases found <;> simp

/-! ## The boolean mode -/

lemma verdict_search_boolean {index : Index} (h : index.Consistent)
    (lemmatizer : Stem.Lemmatizer) (query : String) :
    verdict (index.search lemmatizer query .boolean)
      = due index.postings.representation (tokenize lemmatizer query) .boolean := by
  rw [due_boolean]
  cases hparse : Tree.parse? (tokenize lemmatizer query) with
  | error reason =>
    rw [search_of_parse?_error hparse]
    rfl
  | ok found =>
    cases found with
    | none =>
      rw [search_of_parse?_none hparse]
      rfl
    | some tree =>
      rw [search_of_parse? hparse, boolean_eq h]
      rfl

/-! ## The ranked mode -/

/-- The operators but `AND` are `OR` and the negation. -/
lemma forall_eq_and_iff {tokens : List Token} :
    (∀ op, .operator op ∈ tokens → op = .and) ↔
      ¬ (.operator .or ∈ tokens ∨ .operator .not ∈ tokens) := by
  rw [not_or]
  constructor
  · intro h
    refine ⟨fun hor => ?_, fun hnot => ?_⟩
    · cases h _ hor
    · cases h _ hnot
  · rintro ⟨hor, hnot⟩ op hop
    cases op with
    | and => rfl
    | or => exact absurd hop hor
    | not => exact absurd hop hnot

lemma distinctTerms_eq_nil_iff {tokens : List Token} :
    Query.distinctTerms tokens = [] ↔ ∀ token ∈ tokens, token.isTerm = false := by
  rw [List.eq_nil_iff_forall_not_mem]
  simp only [Query.mem_distinctTerms]
  constructor
  · intro h token htoken
    cases token with
    | term value => exact absurd htoken (h value)
    | operator op | leftParen | rightParen => rfl
  · intro h value hvalue
    cases h _ hvalue

/-- What is found ranks in full, as nothing that is measured stops. -/
lemma verdict_found {index : Index} (h : index.Consistent) (hmeasurable : index.Measurable)
    {store : Posting.Positions} (hstore : index.postings = .positional store)
    (terms : List String) :
    verdict ((liftFault (rankedHits index store terms)).map .found) = .found := by
  cases hhits : rankedHits index store terms with
  | ok hits => rfl
  | error fault =>
    obtain ⟨-, ids, doc, -, hoverflows⟩ := (rankedHits_eq_error h hstore).mp hhits
    exact absurd hoverflows (hmeasurable store hstore ids doc)

lemma verdict_search_ranked {index : Index} (h : index.Consistent) (hmeasurable : index.Measurable)
    (lemmatizer : Stem.Lemmatizer) (query : String) :
    verdict (index.search lemmatizer query .ranked)
      = due index.postings.representation (tokenize lemmatizer query) .ranked := by
  rw [due, Index.search]
  generalize tokenize lemmatizer query = tokens
  have hanswer := rankedAnswer index tokens
  generalize answer index .ranked tokens = answered at hanswer ⊢
  cases hanswer with
  | barred hbarred hop =>
    rw [if_pos (not_not.mp (mt forall_eq_and_iff.mpr fun hand => hbarred (hand _ hop)))]
    rfl
  | unbalanced hoperators hopen =>
    rw [if_neg (forall_eq_and_iff.mp hoperators), if_pos hopen]
    rfl
  | empty hoperators hbalanced hterms =>
    rw [if_neg (forall_eq_and_iff.mp hoperators), if_neg (not_not.mpr hbalanced),
      if_pos (distinctTerms_eq_nil_iff.mp hterms)]
    rfl
  | layout hoperators hbalanced hterms hlayout =>
    rw [if_neg (forall_eq_and_iff.mp hoperators), if_neg (not_not.mpr hbalanced),
      if_neg (mt distinctTerms_eq_nil_iff.mpr hterms), if_pos hlayout]
    rfl
  | found hoperators hbalanced hterms hstore =>
    rw [if_neg (forall_eq_and_iff.mp hoperators), if_neg (not_not.mpr hbalanced),
      if_neg (mt distinctTerms_eq_nil_iff.mpr hterms), verdict_found h hmeasurable hstore, hstore]
    rfl

/-! ## Every search -/

/-- **The verdict is the one that is due**, over every index that can be searched and measured. -/
theorem verdict_search {index : Index} (h : index.Consistent) (hmeasurable : index.Measurable)
    (lemmatizer : Stem.Lemmatizer) (query : String) (mode : Mode) :
    verdict (index.search lemmatizer query mode)
      = due index.postings.representation (tokenize lemmatizer query) mode := by
  cases mode with
  | boolean => exact verdict_search_boolean h lemmatizer query
  | ranked => exact verdict_search_ranked h hmeasurable lemmatizer query

/-- What is looked for once the query is read is found, or the search stops. -/
lemma map_liftFault_ne_error {computation : Except Fault Hits} {reason : Error} :
    (liftFault computation).map Outcome.found ≠ .error (.error reason) := by
  intro h
  obtain ⟨fault, hfault, -⟩ := liftFault_eq_error.mp (map_eq_error.mp h)
  cases hfault

/-- **The query is to blame** for every error of a search, over any index. -/
theorem isQueryError_of_search {index : Index} {lemmatizer : Stem.Lemmatizer} {query : String}
    {mode : Mode} {reason : Error}
    (h : index.search lemmatizer query mode = .error (.error reason)) :
    reason.isQueryError = true := by
  cases mode with
  | boolean =>
    cases hparse : Tree.parse? (tokenize lemmatizer query) with
    | error met =>
      rw [search_of_parse?_error hparse] at h
      cases h
      rfl
    | ok found =>
      cases found with
      | none =>
        rw [search_of_parse?_none hparse] at h
        cases h
      | some tree =>
        rw [search_of_parse? hparse] at h
        exact absurd h map_liftFault_ne_error
  | ranked =>
    have hanswer := rankedAnswer index (tokenize lemmatizer query)
    rw [Index.search] at h
    generalize answer index .ranked (tokenize lemmatizer query) = answered at h hanswer
    cases hanswer with
    | barred | unbalanced | layout =>
      cases h
      rfl
    | empty => cases h
    | found => exact absurd h map_liftFault_ne_error

/-- No search stops. -/
lemma search_ne_fault {index : Index} (h : index.Consistent) (hmeasurable : index.Measurable)
    (lemmatizer : Stem.Lemmatizer) (query : String) (mode : Mode) (fault : Fault) :
    index.search lemmatizer query mode ≠ .error (.fault fault) := by
  intro hstop
  have hverdict := verdict_search h hmeasurable lemmatizer query mode
  have hmem := due_mem index.postings.representation (tokenize lemmatizer query) mode
  rw [← hverdict, hstop] at hmem
  simp [verdict] at hmem

end Retrieval.Search

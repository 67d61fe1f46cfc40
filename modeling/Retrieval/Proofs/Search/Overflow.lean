import Mathlib.Tactic.Common
import Retrieval.Proofs.Archive.Loaded
import Retrieval.Proofs.Query.Conservation
import Retrieval.Proofs.Rank.Overflow
import Retrieval.Proofs.Search.Ranked

/-!
# Ranked search over whatever is loaded

Boolean search answers every query over an index that is loaded; ranked search does not.  The
documents that it ranks are bound, so it can report them, but positions are read from a file without
a check, and the scan for windows measures them in 32 bits.  A ranked search stops exactly if its
query is one that it takes, and the scan over some document comes to the window of all positions
(`ranked_search_stops_only_over_all_positions`).  That takes a position 0, which no builder records.
-/

namespace Retrieval

open Archive (FileError Meta Path Paths load)
open Posting (Positions Store)
open Query (Balanced Token distinctTerms tokenize)
open Rank (Overflows lastPosition positionsIn)

namespace Search

/-! ## The answer to terms -/

/-- Ranked documents can be reported, so only the ranking stops. -/
lemma rankedHits_eq_error {index : Index} (h : index.Consistent) {store : Positions}
    (hstore : index.postings = .positional store) {terms : List String} {fault : Fault} :
    rankedHits index store terms = .error fault ↔ fault = .additionOverflow ∧
      ∃ ids doc, terms.mapM index.termId = some ids ∧ Overflows (positionsIn store ids doc) := by
  rw [rankedHits]
  cases terms.mapM index.termId with
  | none =>
    constructor
    · intro herror
      cases herror
    · rintro ⟨-, ids, doc, hids, -⟩
      cases hids
  | some ids =>
    constructor
    · intro herror
      rcases bind_eq_error.mp herror with hrank | ⟨ranked, hrank, hreport⟩
      · obtain ⟨hfault, doc, hdoc⟩ := Rank.rank_eq_error.mp hrank
        exact ⟨hfault, ids, doc, rfl, hdoc⟩
      · rcases bind_eq_error.mp hreport with hwrong | ⟨hits, -, hwrong⟩
        · obtain ⟨best, hbest, hwrong⟩ := exists_of_mapM_eq_error hwrong
          -- a ranked document is one of a term, and those are bound
          obtain ⟨term, hterm⟩ :=
            Rank.exists_mem_docsFor_of_rank hrank (List.mem_of_mem_take hbest)
          have hdocs : best.doc ∈ index.postings.docsFor term := by
            rw [hstore]
            exact hterm
          obtain ⟨⟨doc, url⟩, hentry, hdoc⟩ := List.mem_map.mp (h.bound hdocs)
          dsimp only at hdoc
          subst hdoc
          rw [hit_eq h (some best.score) hentry] at hwrong
          cases hwrong
        · cases hwrong
    · rintro ⟨hfault, found, doc, hfound, hdoc⟩
      cases hfound
      exact bind_eq_error.mpr (Or.inl (Rank.rank_eq_error.mpr ⟨hfault, doc, hdoc⟩))

/-! ## The answer to a query -/

/-- Over a consistent index a ranked search stops exactly if it takes the query and the ranking
stops. -/
theorem search_ranked_eq_fault {index : Index} (h : index.Consistent)
    (lemmatizer : Stem.Lemmatizer) (query : String) {fault : Fault} :
    index.search lemmatizer query .ranked = .error (.fault fault) ↔
      fault = .additionOverflow ∧
      (∀ op, .operator op ∈ tokenize lemmatizer query → op = .and) ∧
      Balanced (tokenize lemmatizer query) ∧
      ∃ store ids doc, index.postings = .positional store ∧
        (distinctTerms (tokenize lemmatizer query)).mapM index.termId = some ids ∧
        Overflows (positionsIn store ids doc) := by
  rw [Index.search]
  generalize tokenize lemmatizer query = tokens
  have hanswer := rankedAnswer index tokens
  generalize answer index .ranked tokens = answered at hanswer ⊢
  cases hanswer with
  | barred hbarred hop =>
    refine iff_of_false (by simp) fun h => ?_
    exact absurd (h.2.1 _ hop) hbarred
  | unbalanced _ hopen =>
    refine iff_of_false (by simp) fun h => ?_
    exact absurd h.2.2.1 hopen
  | empty _ _ hterms =>
    refine iff_of_false (by simp) ?_
    rintro ⟨-, -, -, store, ids, doc, -, hids, hdoc⟩
    rw [hterms] at hids
    cases hids
    exact absurd rfl hdoc.ne_nil.1
  | layout _ _ _ hlayout =>
    refine iff_of_false (by simp) ?_
    rintro ⟨-, -, -, store, ids, doc, hstore, -⟩
    rw [hstore] at hlayout
    exact absurd rfl hlayout
  | @found store hoperators hbalanced _ hstore =>
    rw [map_eq_error, liftFault_eq_fault, rankedHits_eq_error h hstore]
    constructor
    · rintro ⟨hfault, ids, doc, hids, hdoc⟩
      exact ⟨hfault, hoperators, hbalanced, store, ids, doc, hstore, hids, hdoc⟩
    · rintro ⟨hfault, -, -, other, ids, doc, hother, hids, hdoc⟩
      rw [hstore] at hother
      cases hother
      exact ⟨hfault, ids, doc, hids, hdoc⟩

end Search

namespace Archive

/-- **Ranked search over a loaded index stops only over all positions.**  Let an index be loaded
from files of any contents.  A ranked search over it stops exactly if the query has no operator but
`AND` and balanced parentheses, the index knows its terms, and in some document the scan over their
positions comes to the window from position 0 to the last one; and what it stops at is the size of
that window. -/
theorem ranked_search_stops_only_over_all_positions
    {read : Path → Except FileError (List UInt8)} {paths : Paths} {index : Index} {info : Meta}
    (h : load read paths = .ok (index, info)) (lemmatizer : Stem.Lemmatizer) (query : String)
    {fault : Fault} :
    index.search lemmatizer query .ranked = .error (.fault fault) ↔
      fault = .additionOverflow ∧
      (∀ op, .operator op ∈ tokenize lemmatizer query → op = .and) ∧
      Balanced (tokenize lemmatizer query) ∧
      ∃ store ids doc, index.postings = .positional store ∧
        (distinctTerms (tokenize lemmatizer query)).mapM index.termId = some ids ∧
        Overflows (positionsIn store ids doc) :=
  Search.search_ranked_eq_fault (consistent_of_load h).1 lemmatizer query

/-- Files that no index was saved to: of a document with one term at position 0 and at the last one,
and another term at the last one. -/
def overflowingFiles (path : Path) : Except FileError (List UInt8) :=
  let info : Meta := ⟨1, 2, .positional, "", Meta.formatVersion, Meta.defaultLanguage⟩
  if path = "meta.json" then .ok (Utf8.encode info.text)
  else if path = "words.dic" then
    .ok [2, 0, 0, 0, 3, 0, 0, 0, 0x63, 0x61, 0x74, 1, 0, 0, 0,
      3, 0, 0, 0, 0x66, 0x6f, 0x78, 2, 0, 0, 0]
  else if path = "docs.dic" then .ok [1, 0, 0, 0, 1, 0, 0, 0, 0x75, 1, 0, 0, 0]
  else
    .ok [2, 0, 0, 0, 1, 0, 0, 0, 1, 0, 0, 0, 1, 0, 0, 0, 1, 0, 0, 0, 0xff, 0xff, 0xff, 0xff,
      2, 0, 0, 0, 1, 0, 0, 0, 1, 0, 0, 0, 2, 0, 0, 0, 0, 0, 0, 0, 0xff, 0xff, 0xff, 0xff]

/-- The index in these files. -/
def overflowingIndex : Index :=
  ⟨⟨.forward, [("cat", 1), ("fox", 2)], []⟩, ⟨.reversible, [("u", 1)], [(1, "u")]⟩,
    .positional ⟨[(1, ⟨[(1, [lastPosition])], by decide⟩),
      (2, ⟨[(1, [0, lastPosition])], by decide⟩)], by decide⟩⟩

lemma load_overflowingFiles :
    load overflowingFiles (.ofRoot "")
      = .ok (overflowingIndex, ⟨1, 2, .positional, "", 1, "english"⟩) := by
  decide +kernel

/-- A search for the terms at the last position first stops. -/
theorem last_position_beside_zero_stops :
    load overflowingFiles (.ofRoot "")
        = .ok (overflowingIndex, ⟨1, 2, .positional, "", 1, "english"⟩) ∧
      overflowingIndex.search id "cat fox" .ranked = .error (.fault .additionOverflow) := by
  refine ⟨load_overflowingFiles, ?_⟩
  have htokens : tokenize id "cat fox" = [.term "cat", .term "fox"] := by decide +kernel
  rw [Search.search_ranked_eq_fault (consistent_of_load load_overflowingFiles).1, htokens]
  refine ⟨rfl, by simp, by decide, _, [1, 2], 1, rfl, by decide +kernel, ?_⟩
  exact ⟨0, [lastPosition], rfl, by decide, by decide, [0], by decide, by simp⟩

/-- The condition over this index, told of the terms in the other order. -/
theorem search_for_fox_cat_stops_iff :
    load overflowingFiles (.ofRoot "")
        = .ok (overflowingIndex, ⟨1, 2, .positional, "", 1, "english"⟩) ∧
      (overflowingIndex.search id "fox cat" .ranked = .error (.fault .additionOverflow) ↔
        Fault.additionOverflow = .additionOverflow ∧
        (∀ op, .operator op ∈ tokenize id "fox cat" → op = .and) ∧
        Balanced (tokenize id "fox cat") ∧
        ∃ store ids doc, overflowingIndex.postings = .positional store ∧
          (distinctTerms (tokenize id "fox cat")).mapM overflowingIndex.termId = some ids ∧
          Overflows (positionsIn store ids doc)) :=
  ⟨load_overflowingFiles,
    ranked_search_stops_only_over_all_positions load_overflowingFiles id "fox cat"⟩

end Archive

end Retrieval

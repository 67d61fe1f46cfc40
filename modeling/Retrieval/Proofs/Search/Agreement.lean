import Mathlib.Tactic.Common
import Retrieval.Proofs.Index.Counting
import Retrieval.Proofs.Query.Conservation
import Retrieval.Proofs.Search.Boolean
import Retrieval.Proofs.Search.Ranked

/-!
# Both modes agree on conjunctions

A query without `OR` and negation can be asked in either mode, and the two go different ways.  A
boolean search evaluates the tree of the query by set algebra.  A ranked search forgets the tree,
gives up on a term that the index does not know, and looks for windows over the positions of the
others.  Both come to the same documents: those that have every term of the query.

For the boolean mode this is a matter of the tree, all of whose operators are conjunctions
(`Conjunctive.holds_eq`).  For the ranked mode it is one of the postings: a document has a term
exactly if it has a position of it, as long as positions are counted (`holdsEach_iff`).  An index
that a builder makes meets this, whatever was added, so nothing is asked of the corpus.
-/

namespace Retrieval

open Corpus (Record)
open Posting (Positions Store)
open Query (Tree tokenize)

/-! ## Conjunctive trees -/

namespace Query.Tree

/-- Whether all operators of a tree are conjunctions. -/
def Conjunctive (tree : Tree) : Prop :=
  ∀ op, .operator op ∈ tree.postorder → op = .and

/-- A conjunctive tree holds exactly if its leaves do, however they are nested. -/
lemma Conjunctive.holds_eq {tree : Tree} (h : tree.Conjunctive) (value : String → Bool) :
    tree.holds value = tree.leaves.all value := by
  induction tree with
  | term name => simp [holds, leaves]
  | and left right ihl ihr =>
    have hleft : left.Conjunctive := fun op hop => h op (by simp [postorder, hop])
    have hright : right.Conjunctive := fun op hop => h op (by simp [postorder, hop])
    rw [holds, leaves, List.all_append, ihl hleft, ihr hright]
  | or left right =>
    have hand := h .or (by simp [postorder])
    cases hand
  | not child =>
    have hand := h .not (by simp [postorder])
    cases hand

/-- The tree of a query has no other operators than the query. -/
lemma conjunctive_of_parse? {tokens : List Token} {tree : Tree}
    (h : parse? tokens = .ok (some tree))
    (hoperators : ∀ op, .operator op ∈ tokens → op = .and) : tree.Conjunctive := by
  intro op hop
  have hmem := (perm_postorder_of_parse? h).mem_iff.mp hop
  exact hoperators op (List.mem_filter.mp hmem).1

lemma leaves_ne_nil (tree : Tree) : tree.leaves ≠ [] := by
  induction tree with
  | term value => exact List.cons_ne_nil _ _
  | and left right ihl _ | or left right ihl _ => exact List.append_ne_nil_of_left_ne_nil ihl _
  | not child ih => exact ih

end Query.Tree

namespace Search

/-! ## The documents with all terms -/

section Consistent

variable {index : Index} (h : index.Consistent)

include h

/-- Only bound documents have terms. -/
lemma mem_ids_of_hasTerm {doc : UInt32} {term : String} (hterm : index.hasTerm doc term = true) :
    doc ∈ index.docs.ids := by
  rw [Index.hasTerm] at hterm
  split at hterm
  · exact h.bound ((Store.contains_iff h.canonical).mp hterm)
  · cases hterm

/-- A boolean search for a conjunctive tree finds the documents with all terms. -/
lemma boolean_of_conjunctive (hpositional : index.postings.representation = .positional)
    {tree : Tree} (htree : tree.Conjunctive) :
    ∃ hits : List Hit, boolean index tree = .ok ⟨hits.length, hits⟩ ∧
      hits.map (·.doc) = index.docs.ids.filter fun doc => tree.leaves.all (index.hasTerm doc) := by
  refine ⟨(index.docs.byId.filter fun entry => tree.holds (index.hasTerm entry.1)).map
    fun entry => ⟨entry.1, entry.2, none⟩, ?_, ?_⟩
  · rw [boolean_eq h, hpositional, List.length_map]
    rfl
  · rw [List.map_map, Symbol.Table.ids, List.filter_map]
    simp only [htree.holds_eq]
    rfl

variable {store : Positions} (hstore : index.postings = .positional store)
  (hcounted : index.postings.AllCounted) {terms : List String}

include hstore hcounted

/-- A document has a term exactly if it has a position of the term. -/
lemma hasTerm_iff_positions? {term : String} {id doc : UInt32}
    (hid : index.termId term = some id) :
    index.hasTerm doc term = true ↔
      ∃ positions, store.positions? id doc = some positions ∧ positions ≠ [] := by
  rw [Index.hasTerm, hid]
  change index.postings.contains id doc = true ↔ _
  rw [Store.contains_iff h.canonical, hstore]
  rw [hstore] at hcounted
  constructor
  · intro hdoc
    obtain ⟨positions, hpositions⟩ :=
      Option.isSome_iff_exists.mp (Posting.Positions.mem_docsFor.mp hdoc)
    exact ⟨positions, hpositions, (hcounted id doc positions hpositions).nonempty⟩
  · rintro ⟨positions, hpositions, -⟩
    exact Posting.Positions.mem_docsFor.mpr (Option.isSome_iff_exists.mpr ⟨_, hpositions⟩)

/-- Every term has a position in a document exactly if the document has every term. -/
lemma holdsEach_iff {ids : List UInt32} (hids : terms.map index.termId = ids.map some)
    {doc : UInt32} :
    Rank.HoldsEach store ids doc ↔ ∀ term ∈ terms, index.hasTerm doc term = true := by
  constructor
  · intro hall term hterm
    obtain ⟨id, hid, hsome⟩ := exists_id_of_mem hids hterm
    exact (hasTerm_iff_positions? h hstore hcounted hsome).mpr (hall id hid)
  · intro hall id hid
    obtain ⟨term, hterm, hsome⟩ := exists_term_of_mem hids hid
    exact (hasTerm_iff_positions? h hstore hcounted hsome).mp (hall term hterm)

/-- The ranking has the documents with all terms, each once. -/
lemma exists_ranked {ids : List UInt32} (hids : terms.map index.termId = ids.map some)
    (hterms : terms ≠ []) :
    ∃ ranked, Rank.rank store ids = .ok ranked ∧ (ranked.map (·.doc)).Nodup ∧
      ∀ doc, doc ∈ ranked.map (·.doc) ↔ ∀ term ∈ terms, index.hasTerm doc term = true := by
  have hidsne := ids_ne_nil hids hterms
  have hpositive : ∀ {id doc positions}, store.positions? id doc = some positions →
      ∀ p ∈ positions, 1 ≤ p.toNat := by
    intro id doc positions hpositions
    rw [hstore] at hcounted
    exact (hcounted id doc positions hpositions).positive
  obtain ⟨ranked, hranked, hmem, hnodup, -⟩ := Rank.rank_spec hpositive hidsne
  refine ⟨ranked, hranked, hnodup, fun doc => ?_⟩
  rw [List.mem_map, ← holdsEach_iff h hstore hcounted hids]
  constructor
  · rintro ⟨scored, hscored, rfl⟩
    exact ((hmem scored).mp hscored).holds
  · intro hholds
    obtain ⟨scored, hdoc, hsound⟩ := Rank.exists_sound hpositive hidsne hholds
    exact ⟨scored, (hmem scored).mpr hsound, hdoc⟩

/-- **Ranked search over a consistent index.**  It never stops, and it ranks the documents with all
terms, each once. -/
theorem rankedHits_of_consistent (hterms : terms ≠ []) :
    ∃ ranking : List Hit,
      rankedHits index store terms = .ok ⟨ranking.length, ranking.take limit⟩ ∧
      (ranking.map (·.doc)).Perm
        (index.docs.ids.filter fun doc => terms.all (index.hasTerm doc)) := by
  cases hmapM : terms.mapM index.termId with
  | none =>
    refine ⟨[], by rw [rankedHits, hmapM]; rfl, ?_⟩
    -- a document with all terms would make the index know them all
    have hnone : ∀ doc, terms.all (index.hasTerm doc) ≠ true := by
      intro doc hall
      obtain ⟨term, hterm, hunknown⟩ := exists_of_mapM_eq_none hmapM
      have hheld := List.all_eq_true.mp hall term hterm
      rw [Index.hasTerm, hunknown] at hheld
      cases hheld
    rw [List.filter_eq_nil_iff.mpr fun doc _ => hnone doc]
    exact List.Perm.nil
  | some ids =>
    obtain ⟨ranked, hranked, hnodup, hdocs⟩ :=
      exists_ranked h hstore hcounted (mapM_eq_some.mp hmapM) hterms
    have hbound : ∀ doc ∈ ranked.map (·.doc), doc ∈ index.docs.ids := by
      intro doc hdoc
      obtain ⟨term, hterm⟩ := List.exists_mem_of_ne_nil terms hterms
      exact mem_ids_of_hasTerm h ((hdocs doc).mp hdoc term hterm)
    refine ⟨ranked.map (rankedHit index), ?_, ?_⟩
    · rw [List.length_map]
      exact rankedHits_of_rank h hmapM hranked fun scored hscored =>
        hbound scored.doc (List.mem_map_of_mem hscored)
    · rw [List.map_map]
      refine (List.perm_ext_iff_of_nodup hnodup ?_).mpr fun doc => ?_
      · exact (h.ascending.filter _).imp UInt32.ne_of_lt
      · rw [List.mem_filter, List.all_eq_true, ← hdocs]
        exact ⟨fun hdoc => ⟨hbound doc hdoc, hdoc⟩, fun hdoc => hdoc.2⟩

end Consistent

/-! ## Both modes -/

/-- **The modes agree on conjunctions.**  Let an index with positional postings be built from any
records, and let a query without `OR` and negation be read as a tree.  Then both modes answer it and
count the same documents.  The ranked hits are different documents, all of them among the boolean
hits; and if there are no more than a ranked search lists, both list the same documents. -/
theorem modes_agree_on_conjunctions {analysis : Analysis} {records : List Record}
    {answers : List (Option UInt32)} {builder : Builder}
    (hadd : (Builder.empty .positional).addAll analysis records = .ok (answers, builder))
    {lemmatizer : Stem.Lemmatizer} {query : String} {tree : Tree}
    (hoperators : ∀ op, .operator op ∈ tokenize lemmatizer query → op = .and)
    (hquery : Tree.parse? (tokenize lemmatizer query) = .ok (some tree)) :
    ∃ found listed : Hits,
      builder.index.search lemmatizer query .boolean = .ok (.found found) ∧
      builder.index.search lemmatizer query .ranked = .ok (.found listed) ∧
      listed.total = found.total ∧
      (listed.hits.map (·.doc)).Nodup ∧
      (∀ doc ∈ listed.hits.map (·.doc), doc ∈ found.hits.map (·.doc)) ∧
      (found.total ≤ limit → (listed.hits.map (·.doc)).Perm (found.hits.map (·.doc))) := by
  obtain ⟨-, hbuilder⟩ := (Builder.Describes.empty analysis .positional).addAll hadd
  have hconsistent := hbuilder.consistent
  obtain ⟨store, hstore⟩ := Store.exists_positional hbuilder.representation
  have hleaves : ∀ value, value ∈ Query.distinctTerms (tokenize lemmatizer query) ↔
      value ∈ tree.leaves := fun _ =>
    Query.mem_distinctTerms.trans (Tree.mem_leaves_of_parse? hquery).symm
  have hterms : Query.distinctTerms (tokenize lemmatizer query) ≠ [] := by
    obtain ⟨value, hvalue⟩ := List.exists_mem_of_ne_nil _ tree.leaves_ne_nil
    exact List.ne_nil_of_mem ((hleaves value).mpr hvalue)
  have hbalanced : Query.Balanced (tokenize lemmatizer query) := by
    obtain ⟨out, hout, -⟩ := bind_eq_ok.mp hquery
    exact Query.balanced_of_toPostfix hout
  obtain ⟨hits, hfound, hdocs⟩ := boolean_of_conjunctive hconsistent hbuilder.representation
    (Tree.conjunctive_of_parse? hquery hoperators)
  obtain ⟨ranking, hlisted, hperm⟩ := rankedHits_of_consistent hconsistent hstore
    (Builder.allCounted_of_addAll hadd) hterms
  -- whether all leaves are asked for or each term once is the same
  have hsame : (ranking.map (·.doc)).Perm (hits.map (·.doc)) := by
    have hall : ∀ doc, (Query.distinctTerms (tokenize lemmatizer query)).all
        (builder.index.hasTerm doc) = tree.leaves.all (builder.index.hasTerm doc) := by
      intro doc
      rw [Bool.eq_iff_iff, List.all_eq_true, List.all_eq_true]
      simp only [hleaves]
    simp only [hall] at hperm
    rwa [hdocs]
  have hlength : ranking.length = hits.length := by simpa using hsame.length_eq
  refine ⟨⟨hits.length, hits⟩, ⟨ranking.length, ranking.take limit⟩, ?_, ?_, ?_, ?_, ?_, ?_⟩
  · rw [search_of_parse? hquery, hfound]
    rfl
  · rw [search_ranked_eq hstore hoperators hbalanced hterms, hlisted]
    rfl
  · exact hlength
  · have hnodup : (ranking.map (·.doc)).Nodup := by
      rw [hperm.nodup_iff]
      exact (hconsistent.ascending.filter _).imp UInt32.ne_of_lt
    exact hnodup.sublist ((List.take_sublist _ _).map _)
  · intro doc hdoc
    exact hsame.subset (((List.take_sublist _ _).map _).subset hdoc)
  · intro hlimit
    change ((ranking.take limit).map (·.doc)).Perm _
    rw [List.take_of_length_le (hlength.trans_le hlimit)]
    exact hsame

/-- Terms that stand in parentheses, that are repeated and that only some of the records hold. -/
theorem modes_agree_on_nested_fox_and_cat :
    let analysis : Analysis := ⟨Text.normalize, id⟩
    let records : List Record :=
      [⟨"a", "The fox saw a cat"⟩, ⟨"b", "the cat"⟩, ⟨"c", "a cat, fox"⟩]
    ∃ answers builder,
      (Builder.empty .positional).addAll analysis records = .ok (answers, builder) ∧
      ∃ found listed : Hits,
        builder.index.search id "fox AND (cat AND fox)" .boolean = .ok (.found found) ∧
        builder.index.search id "fox AND (cat AND fox)" .ranked = .ok (.found listed) ∧
        listed.total = found.total ∧
        (listed.hits.map (·.doc)).Nodup ∧
        (∀ doc ∈ listed.hits.map (·.doc), doc ∈ found.hits.map (·.doc)) ∧
        (found.total ≤ limit → (listed.hits.map (·.doc)).Perm (found.hits.map (·.doc))) := by
  intro analysis records
  have hfits : Corpus.Fits analysis records :=
    ⟨by decide +kernel, by decide +kernel, by decide +kernel⟩
  obtain ⟨builder, hadd, -⟩ := Builder.exists_addAll hfits .positional
  have htokens : tokenize id "fox AND (cat AND fox)"
      = [.term "fox", .operator .and, .leftParen, .term "cat", .operator .and, .term "fox",
          .rightParen] := by
    decide +kernel
  have hquery : Tree.parse? (tokenize id "fox AND (cat AND fox)")
      = .ok (some (.and (.term "fox") (.and (.term "cat") (.term "fox")))) := by
    rw [htokens]
    decide
  refine ⟨_, builder, hadd, modes_agree_on_conjunctions hadd (fun op hop => ?_) hquery⟩
  rw [htokens] at hop
  simpa using hop

end Search

end Retrieval

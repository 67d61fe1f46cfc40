import Mathlib.Tactic.Common
import Retrieval.Proofs.Index.Build
import Retrieval.Proofs.Query.Conservation
import Retrieval.Proofs.Rank.Ranking
import Retrieval.Text.Normalize

/-!
# Ranked search against the corpus

A ranked query is its set of terms.  A document matches it if every term is one of the document's
stems, and it is scored by the best among the stretches of its tokens that hold every term
(`HoldsTerms`): the shortest, and of the shortest the first.  Here this is told of the records that
were added, with places counted from 1, and without positions, ids of terms or windows over lists.

The way there is the translation of one description into the other.  The positions kept for a term
of a document are the places of the term among its stems (`mem_positions?`), so an interval covers
the positions of all terms exactly if the tokens in it hold all terms (`covers_positionsIn`), and
what the ranking says of a document is what its stems say (`sound_iff`).

A ranked query need not be answered.  What it may come to over any index is `RankedAnswer`, one case
for each question that it is asked, and every answer is one of these (`rankedAnswer`).
-/

namespace Retrieval

open Corpus (Document Record accepted ids)
open Posting (Positions Store)
open Rank (Covers Scored Window positionsIn)

namespace Search

/-! ## What is sought -/

/-- Whether the tokens from the `start`-th on, as many as `size`, hold every term.  Tokens are
counted from 1. -/
def HoldsTerms (stems terms : List String) (start size : Nat) : Prop :=
  ∀ term ∈ terms, ∃ place, stems[place]? = some term ∧ start ≤ place + 1 ∧ place + 1 < start + size

/-- Whether every term is one of the stems of a document. -/
def matchesTerms (analysis : Analysis) (terms : List String) (document : Document) : Bool :=
  terms.all fun term => decide (term ∈ document.stems analysis)

/-- Whether a hit stands before another: it has a greater score, or the same and a lesser id. -/
def Hit.Before (a b : Hit) : Prop :=
  ∃ score score', a.score? = some score ∧ b.score? = some score' ∧
    (score' < score ∨ (score = score' ∧ a.doc < b.doc))

/-! ## Ids of terms -/

lemma exists_id_of_mem {index : Index} {terms : List String} {ids : List UInt32}
    (hids : terms.map index.termId = ids.map some) {term : String} (hterm : term ∈ terms) :
    ∃ id ∈ ids, index.termId term = some id := by
  have hmem : index.termId term ∈ ids.map some := by
    rw [← hids]
    exact List.mem_map_of_mem hterm
  obtain ⟨id, hid, hsome⟩ := List.mem_map.mp hmem
  exact ⟨id, hid, hsome.symm⟩

lemma exists_term_of_mem {index : Index} {terms : List String} {ids : List UInt32}
    (hids : terms.map index.termId = ids.map some) {id : UInt32} (hid : id ∈ ids) :
    ∃ term ∈ terms, index.termId term = some id := by
  have hmem : some id ∈ terms.map index.termId := by
    rw [hids]
    exact List.mem_map_of_mem hid
  exact List.mem_map.mp hmem

lemma ids_ne_nil {index : Index} {terms : List String} {ids : List UInt32}
    (hids : terms.map index.termId = ids.map some) (hterms : terms ≠ []) : ids ≠ [] := by
  rintro rfl
  exact hterms (List.map_eq_nil_iff.mp hids)

/-! ## Reporting -/

/-- How a ranked document is reported. -/
def rankedHit (index : Index) (scored : Scored) : Hit :=
  ⟨scored.doc, (index.docs.byId.lookup scored.doc).getD "", some scored.score⟩

/-- Over a consistent index a ranking of bound documents is reported. -/
lemma rankedHits_of_rank {index : Index} (h : index.Consistent) {store : Positions}
    {terms : List String} {ids : List UInt32} {ranked : List Scored}
    (hids : terms.mapM index.termId = some ids) (hranked : Rank.rank store ids = .ok ranked)
    (hbound : ∀ scored ∈ ranked, scored.doc ∈ index.docs.ids) :
    rankedHits index store terms
      = .ok ⟨ranked.length, (ranked.map (rankedHit index)).take limit⟩ := by
  have hnodup : (index.docs.byId.map Prod.fst).Nodup := h.ascending.imp UInt32.ne_of_lt
  have hhits : (ranked.take limit).mapM (fun best => hit index (some best.score) best.doc)
      = .ok ((ranked.take limit).map (rankedHit index)) := by
    refine mapM_eq_ok_map fun scored hscored => ?_
    obtain ⟨⟨doc, url⟩, hentry, hdoc⟩ :=
      List.mem_map.mp (hbound scored (List.mem_of_mem_take hscored))
    dsimp only at hdoc
    subst hdoc
    rw [hit_eq h _ hentry, rankedHit, (lookup_eq_some_iff_mem hnodup).mpr hentry]
    rfl
  simp only [rankedHits, hids, hranked, hhits, ok_bind, List.map_take]
  rfl

section Positional

variable {analysis : Analysis} {records : List Record} {builder : Builder} {store : Positions}
  (h : Builder.Describes analysis .positional records builder)
  (hstore : builder.index.postings = .positional store)

include h hstore

/-- The positions kept for an id in a document are the places of the stems bound to it. -/
lemma mem_positions?_of_bindsTo (hfits : Corpus.Fits analysis records) {document : Document}
    (hdocument : document ∈ accepted records) {id position : UInt32} :
    position ∈ (store.positions? id document.id).getD [] ↔
      ∃ place stem, (document.stems analysis)[place]? = some stem ∧
        Builder.Occurrences.bindsTo builder.index.terms id stem = true ∧
        position.toNat = place + 1 := by
  have hsame : builder.index.postings.positions? id document.id
      = store.positions? id document.id := by
    rw [hstore]
    rfl
  rw [← hsame]
  exact h.mem_positions? rfl hfits hdocument

/-- The positions kept for a term of a document are the places of the term among its stems. -/
lemma mem_positions? (hfits : Corpus.Fits analysis records) {document : Document}
    (hdocument : document ∈ accepted records) {term : String} (hne : term ≠ "") {id : UInt32}
    (hid : builder.index.termId term = some id) {position : UInt32} :
    position ∈ (store.positions? id document.id).getD [] ↔
      ∃ place, (document.stems analysis)[place]? = some term ∧ position.toNat = place + 1 := by
  rw [mem_positions?_of_bindsTo h hstore hfits hdocument]
  refine exists_congr fun place => ?_
  simp only [h.bindsTo_iff hne hid]
  constructor
  · rintro ⟨stem, hstem, rfl, hposition⟩
    exact ⟨hstem, hposition⟩
  · rintro ⟨hstem, hposition⟩
    exact ⟨term, hstem, rfl, hposition⟩

/-- A document with positions is an accepted one. -/
lemma exists_document_of_positions? {id doc : UInt32} {positions : List UInt32}
    (hpositions : store.positions? id doc = some positions) :
    ∃ document ∈ accepted records, document.id = doc := by
  have hdoc : doc ∈ builder.index.postings.docsFor id := by
    rw [hstore]
    exact Positions.mem_docsFor.mpr (by rw [hpositions]; rfl)
  obtain ⟨document, hdocument, hsame, -⟩ := h.recorded.docsFor.mp hdoc
  exact ⟨document, hdocument, hsame⟩

/-- Positions are counted from 1. -/
lemma one_le_positions (hfits : Corpus.Fits analysis records) {id doc : UInt32}
    {positions : List UInt32} (hpositions : store.positions? id doc = some positions) :
    ∀ p ∈ positions, 1 ≤ p.toNat := by
  intro p hp
  obtain ⟨document, hdocument, rfl⟩ := exists_document_of_positions? h hstore hpositions
  have hkept : p ∈ (store.positions? id document.id).getD [] := by rwa [hpositions]
  obtain ⟨place, -, -, -, hplace⟩ :=
    (mem_positions?_of_bindsTo h hstore hfits hdocument).mp hkept
  omega

variable {terms : List String} {ids : List UInt32}

/-- An interval covers the positions of all terms if the tokens in it hold all terms. -/
lemma covers_positionsIn (hfits : Corpus.Fits analysis records) {document : Document}
    (hdocument : document ∈ accepted records) (hne : ∀ term ∈ terms, term ≠ "")
    (hids : terms.map builder.index.termId = ids.map some) (start size : Nat) :
    Covers (positionsIn store ids document.id) start size ↔
      HoldsTerms (document.stems analysis) terms start size := by
  have hcovers : Covers (positionsIn store ids document.id) start size ↔
      ∀ id ∈ ids, ∃ position ∈ (store.positions? id document.id).getD [],
        start ≤ position.toNat ∧ position.toNat < start + size := by
    rw [Covers, positionsIn, List.forall_mem_map]
    simp only [mem_distinct]
  rw [hcovers]
  constructor
  · intro hall term hterm
    obtain ⟨id, hid, hsome⟩ := exists_id_of_mem hids hterm
    obtain ⟨position, hposition, hwithin⟩ := hall id hid
    obtain ⟨place, hplace, heq⟩ :=
      (mem_positions? h hstore hfits hdocument (hne term hterm) hsome).mp hposition
    rw [heq] at hwithin
    exact ⟨place, hplace, hwithin⟩
  · intro hall id hid
    obtain ⟨term, hterm, hsome⟩ := exists_term_of_mem hids hid
    obtain ⟨place, hplace, hwithin⟩ := hall term hterm
    have hplaced := hfits.toNat_place hdocument hplace
    refine ⟨UInt32.ofNat (place + 1), ?_, by rwa [hplaced]⟩
    exact (mem_positions? h hstore hfits hdocument (hne term hterm) hsome).mpr
      ⟨place, hplace, hplaced⟩

/-- In a document that matches, every term has a position. -/
lemma exists_positions_of_matches (hfits : Corpus.Fits analysis records)
    (hne : ∀ term ∈ terms, term ≠ "") (hids : terms.map builder.index.termId = ids.map some)
    {document : Document} (hdocument : document ∈ accepted records)
    (hmatches : matchesTerms analysis terms document = true) :
    Rank.HoldsEach store ids document.id := by
  intro id hid
  obtain ⟨term, hterm, hsome⟩ := exists_term_of_mem hids hid
  have hstem := of_decide_eq_true (List.all_eq_true.mp hmatches term hterm)
  obtain ⟨place, hplace⟩ := List.mem_iff_getElem?.mp hstem
  have hposition := (mem_positions? h hstore hfits hdocument (hne term hterm) hsome).mpr
    ⟨place, hplace, hfits.toNat_place hdocument hplace⟩
  cases hkept : store.positions? id document.id with
  | none =>
    rw [hkept] at hposition
    cases hposition
  | some positions =>
    rw [hkept] at hposition
    exact ⟨positions, rfl, List.ne_nil_of_mem hposition⟩

/-- What the ranking says of a document is what its stems say. -/
lemma sound_iff (hfits : Corpus.Fits analysis records) (hterms : terms ≠ [])
    (hne : ∀ term ∈ terms, term ≠ "") (hids : terms.map builder.index.termId = ids.map some)
    {scored : Scored} :
    scored.Sound store ids ↔ ∃ document ∈ accepted records, scored.doc = document.id ∧
      matchesTerms analysis terms document = true ∧
      scored.window.Best (HoldsTerms (document.stems analysis) terms) ∧
      scored.score = scored.window.score := by
  constructor
  · intro hsound
    -- some term has a position in the document, so it is an accepted one
    obtain ⟨first, hfirst⟩ := List.exists_mem_of_ne_nil terms hterms
    obtain ⟨firstid, hfirstid, -⟩ := exists_id_of_mem hids hfirst
    obtain ⟨positions, hpositions, -⟩ := hsound.holds firstid hfirstid
    obtain ⟨document, hdocument, hsame⟩ := exists_document_of_positions? h hstore hpositions
    refine ⟨document, hdocument, hsame.symm, ?_, ?_, hsound.score⟩
    · refine List.all_eq_true.mpr fun term hterm => decide_eq_true ?_
      obtain ⟨id, hid, hsome⟩ := exists_id_of_mem hids hterm
      obtain ⟨positions, hpositions, hnonempty⟩ := hsound.holds id hid
      obtain ⟨position, hposition⟩ := List.exists_mem_of_ne_nil positions hnonempty
      rw [← hsame] at hpositions
      have hkept : position ∈ (store.positions? id document.id).getD [] := by
        rwa [hpositions]
      obtain ⟨place, hplace, -⟩ :=
        (mem_positions? h hstore hfits hdocument (hne term hterm) hsome).mp hkept
      exact List.mem_of_getElem? hplace
    · have hbest := hsound.best
      rw [← hsame] at hbest
      exact (Window.Best.congr (covers_positionsIn h hstore hfits hdocument hne hids)).mp hbest
  · rintro ⟨document, hdocument, hdoc, hmatches, hbest, hscore⟩
    refine ⟨?_, ?_, hscore⟩
    · rw [hdoc]
      exact exists_positions_of_matches h hstore hfits hne hids hdocument hmatches
    · rw [hdoc]
      exact (Window.Best.congr (covers_positionsIn h hstore hfits hdocument hne hids)).mpr hbest

/-! ## The hits -/

/-- A list of hits ranks the matching documents: each is listed once, with its address and the score
of its best stretch of tokens, the best first. -/
structure Ranks (analysis : Analysis) (records : List Record) (terms : List String)
    (ranking : List Hit) : Prop where
  docs : (ranking.map (·.doc)).Perm
    (((accepted records).filter (matchesTerms analysis terms)).map (·.id))
  scores : ∀ hit ∈ ranking, ∃ document ∈ accepted records, ∃ window : Window,
    window.Best (HoldsTerms (document.stems analysis) terms) ∧
      hit = ⟨document.id, document.url, some window.score⟩
  ordered : ranking.Pairwise Hit.Before

omit hstore in
/-- A document that matches holds every term, so the index knows them all. -/
lemma not_matchesTerms_of_mapM_eq_none (hne : ∀ term ∈ terms, term ≠ "")
    (hunknown : terms.mapM builder.index.termId = none) {document : Document}
    (hdocument : document ∈ accepted records) : ¬ matchesTerms analysis terms document = true := by
  intro hmatches
  obtain ⟨term, hterm, hnone⟩ := exists_of_mapM_eq_none hunknown
  have hstem := of_decide_eq_true (List.all_eq_true.mp hmatches term hterm)
  obtain ⟨id, hid⟩ := h.lookup_of_mem_stems hdocument hstem (hne term hterm)
  rw [Index.termId, hid] at hnone
  cases hnone

/-- The documents that are scored soundly are those that match. -/
lemma perm_ids_of_sound (hfits : Corpus.Fits analysis records) (hterms : terms ≠ [])
    (hne : ∀ term ∈ terms, term ≠ "") (hids : terms.map builder.index.termId = ids.map some)
    {ranked : List Scored} (hmem : ∀ scored, scored ∈ ranked ↔ scored.Sound store ids)
    (hnodup : (ranked.map (·.doc)).Nodup) :
    (ranked.map (·.doc)).Perm
      (((accepted records).filter (matchesTerms analysis terms)).map (·.id)) := by
  have hascending : (((accepted records).filter (matchesTerms analysis terms)).map
      (·.id)).Pairwise (· < ·) :=
    (Corpus.ascending_ids hfits.calls).sublist (List.filter_sublist.map _)
  refine (List.perm_ext_iff_of_nodup hnodup (hascending.imp UInt32.ne_of_lt)).mpr fun doc => ?_
  rw [List.mem_map, List.mem_map]
  constructor
  · rintro ⟨scored, hscored, rfl⟩
    obtain ⟨document, hdocument, hdoc, hmatches, -⟩ :=
      (sound_iff h hstore hfits hterms hne hids).mp ((hmem scored).mp hscored)
    exact ⟨document, List.mem_filter.mpr ⟨hdocument, hmatches⟩, hdoc.symm⟩
  · rintro ⟨document, hdocument, rfl⟩
    obtain ⟨haccepted, hmatches⟩ := List.mem_filter.mp hdocument
    obtain ⟨scored, hdoc, hscored⟩ := Rank.exists_sound
      (fun hpositions => one_le_positions h hstore hfits hpositions) (ids_ne_nil hids hterms)
      (exists_positions_of_matches h hstore hfits hne hids haccepted hmatches)
    exact ⟨scored, (hmem scored).mpr hscored, hdoc⟩

/-- A ranking of all documents that are scored soundly, reported, ranks those that match. -/
lemma ranks_of_sound (hfits : Corpus.Fits analysis records) (hterms : terms ≠ [])
    (hne : ∀ term ∈ terms, term ≠ "") (hids : terms.map builder.index.termId = ids.map some)
    {ranked : List Scored} (hmem : ∀ scored, scored ∈ ranked ↔ scored.Sound store ids)
    (hnodup : (ranked.map (·.doc)).Nodup) (hordered : ranked.Pairwise (·.le · = true)) :
    Ranks analysis records terms (ranked.map (rankedHit builder.index)) where
  docs := by
    rw [List.map_map]
    exact perm_ids_of_sound h hstore hfits hterms hne hids hmem hnodup
  scores hit hhit := by
    obtain ⟨scored, hscored, rfl⟩ := List.mem_map.mp hhit
    obtain ⟨document, hdocument, hdoc, -, hbest, hscore⟩ :=
      (sound_iff h hstore hfits hterms hne hids).mp ((hmem scored).mp hscored)
    refine ⟨document, hdocument, scored.window, hbest, ?_⟩
    rw [rankedHit, hdoc, h.lookup_byId hdocument, ← hscore]
    rfl
  ordered := by
    rw [List.pairwise_map]
    refine (hordered.and (List.pairwise_map.mp hnodup)).imp fun {a b} hab => ?_
    refine ⟨a.score, b.score, rfl, rfl, ?_⟩
    rcases Scored.le_iff.mp hab.1 with hless | ⟨hsame, hle⟩
    · exact Or.inl hless
    · exact Or.inr ⟨hsame, UInt32.lt_of_le_of_ne hle hab.2⟩

/-- The ranked documents with their addresses. -/
lemma rankedHits_eq (hfits : Corpus.Fits analysis records) (hterms : terms ≠ [])
    (hne : ∀ term ∈ terms, term ≠ "") :
    ∃ ranking, rankedHits builder.index store terms = .ok ⟨ranking.length, ranking.take limit⟩ ∧
      Ranks analysis records terms ranking := by
  cases hmapM : terms.mapM builder.index.termId with
  | none =>
    have hunmatched : (accepted records).filter (matchesTerms analysis terms) = [] :=
      List.filter_eq_nil_iff.mpr fun _ => not_matchesTerms_of_mapM_eq_none h hne hmapM
    refine ⟨[], ?_, by rw [hunmatched]; exact List.Perm.nil, by simp, List.Pairwise.nil⟩
    rw [rankedHits, hmapM]
    rfl
  | some ids =>
    have hids := mapM_eq_some.mp hmapM
    obtain ⟨ranked, hranked, hmem, hnodup, hordered⟩ := Rank.rank_spec
      (fun hpositions => one_le_positions h hstore hfits hpositions) (ids_ne_nil hids hterms)
    refine ⟨ranked.map (rankedHit builder.index), ?_,
      ranks_of_sound h hstore hfits hterms hne hids hmem hnodup hordered⟩
    rw [List.length_map]
    refine rankedHits_of_rank h.consistent hmapM hranked fun scored hscored => ?_
    obtain ⟨document, hdocument, hdoc, -⟩ :=
      (sound_iff h hstore hfits hterms hne hids).mp ((hmem scored).mp hscored)
    rw [h.ids_docs, hdoc]
    exact List.mem_map_of_mem hdocument

end Positional

/-! ## The answer -/

/-- An operator is barred only if it stands in the query and is not `AND`. -/
lemma ne_and_of_barredOperator? {tokens : List Query.Token} {op : Query.Operator}
    (h : barredOperator? tokens = some op) : op ≠ .and ∧ .operator op ∈ tokens := by
  obtain ⟨token, htoken, hfound⟩ := List.exists_of_findSome?_eq_some h
  cases token with
  | operator found =>
    cases found with
    | and => cases hfound
    | or | not =>
      cases hfound
      exact ⟨by decide, htoken⟩
  | term value | leftParen | rightParen => cases hfound

lemma eq_and_of_barredOperator?_eq_none {tokens : List Query.Token}
    (h : barredOperator? tokens = none) {op : Query.Operator} (hop : .operator op ∈ tokens) :
    op = .and := by
  have hfound := List.findSome?_eq_none_iff.mp h _ hop
  cases op with
  | and => rfl
  | or | not => cases hfound

/-- What a ranked query may come to.  It is asked in this order whether it holds an operator but
`AND`, whether its parentheses balance, whether it has terms, and whether there are positions. -/
inductive RankedAnswer (index : Index) (tokens : List Query.Token) :
    Except (Failure Error) Outcome → Prop where
  | barred {op : Query.Operator} (hbarred : op ≠ .and) (hop : .operator op ∈ tokens) :
    RankedAnswer index tokens (.error (.error (.unsupported (.operator op))))
  | unbalanced {reason : Query.SyntaxError}
      (hoperators : ∀ op, .operator op ∈ tokens → op = .and) (hopen : ¬ Query.Balanced tokens) :
    RankedAnswer index tokens (.error (.error (.malformed reason)))
  | empty (hoperators : ∀ op, .operator op ∈ tokens → op = .and)
      (hbalanced : Query.Balanced tokens) (hterms : Query.distinctTerms tokens = []) :
    RankedAnswer index tokens (.ok .emptyQuery)
  | layout (hoperators : ∀ op, .operator op ∈ tokens → op = .and)
      (hbalanced : Query.Balanced tokens) (hterms : Query.distinctTerms tokens ≠ [])
      (hlayout : index.postings.representation ≠ .positional) :
    RankedAnswer index tokens
      (.error (.error (.unsupported (.layout index.postings.representation))))
  | found {store : Positions} (hoperators : ∀ op, .operator op ∈ tokens → op = .and)
      (hbalanced : Query.Balanced tokens) (hterms : Query.distinctTerms tokens ≠ [])
      (hstore : index.postings = .positional store) :
    RankedAnswer index tokens
      ((liftFault (rankedHits index store (Query.distinctTerms tokens))).map .found)

/-- A query without tokens needs no word of its own. -/
lemma answer_ranked (index : Index) (tokens : List Query.Token) :
    answer index .ranked tokens = ranked index tokens := by
  cases tokens <;> rfl

/-- **Every answer to a ranked query** is one of these. -/
lemma rankedAnswer (index : Index) (tokens : List Query.Token) :
    RankedAnswer index tokens (answer index .ranked tokens) := by
  rw [answer_ranked, ranked]
  cases hbarred : barredOperator? tokens with
  | some op =>
    obtain ⟨hne, hop⟩ := ne_and_of_barredOperator? hbarred
    exact .barred hne hop
  | none =>
    have hoperators : ∀ op, .operator op ∈ tokens → op = .and :=
      fun _ => eq_and_of_barredOperator?_eq_none hbarred
    cases hout : Query.toPostfix tokens with
    | error reason =>
      refine .unbalanced hoperators fun hbalanced => ?_
      obtain ⟨out, hparsed⟩ := Query.exists_toPostfix hbalanced
      rw [hparsed] at hout
      cases hout
    | ok out =>
      have hbalanced := Query.balanced_of_toPostfix hout
      simp only [Except.mapError, liftError, ok_bind]
      cases hterms : Query.distinctTerms tokens with
      | nil => exact .empty hoperators hbalanced hterms
      | cons first rest =>
        have hne : Query.distinctTerms tokens ≠ [] := by
          rw [hterms]
          exact List.cons_ne_nil first rest
        cases hstore : index.postings with
        | positional store =>
          have hfound := RankedAnswer.found hoperators hbalanced hne hstore
          rwa [hterms] at hfound
        | bitset rows | docSet rows =>
          have hother : index.postings.representation ≠ .positional := by
            rw [hstore]
            simp [Store.representation]
          have hlayout : RankedAnswer index tokens _ := .layout hoperators hbalanced hne hother
          rwa [hstore] at hlayout

/-- A ranked search answers a query with terms, balanced parentheses and no operator but `AND`. -/
lemma search_ranked_eq {index : Index} {store : Positions}
    (hstore : index.postings = .positional store) {lemmatizer : Stem.Lemmatizer} {query : String}
    (hoperators : ∀ op, .operator op ∈ Query.tokenize lemmatizer query → op = .and)
    (hbalanced : Query.Balanced (Query.tokenize lemmatizer query))
    (hterms : Query.distinctTerms (Query.tokenize lemmatizer query) ≠ []) :
    index.search lemmatizer query .ranked
      = (liftFault (rankedHits index store
          (Query.distinctTerms (Query.tokenize lemmatizer query)))).map .found := by
  have hanswer := rankedAnswer index (Query.tokenize lemmatizer query)
  rw [Index.search]
  generalize answer index .ranked (Query.tokenize lemmatizer query) = answered at hanswer ⊢
  cases hanswer with
  | barred hbarred hop => exact absurd (hoperators _ hop) hbarred
  | unbalanced _ hopen => exact absurd hbalanced hopen
  | empty _ _ hempty => exact absurd hempty hterms
  | layout _ _ _ hlayout => exact absurd (by rw [hstore]; rfl) hlayout
  | found _ _ _ hfound =>
    rw [hstore] at hfound
    cases hfound
    rfl

/-- **Ranked search is correct against the corpus.**  Let records be added that can be numbered, and
let a query hold terms, balanced parentheses and no operator but `AND`.  Then over positional
postings all records are added, and the search finds the first ten of the ranking of the documents
that match, and counts them all. -/
theorem ranked_search_lists_best {analysis : Analysis} {records : List Record}
    (hfits : Corpus.Fits analysis records) {lemmatizer : Stem.Lemmatizer} {query : String}
    (hoperators : ∀ op, .operator op ∈ Query.tokenize lemmatizer query → op = .and)
    (hbalanced : Query.Balanced (Query.tokenize lemmatizer query))
    (hterms : ∃ value, .term value ∈ Query.tokenize lemmatizer query) :
    let terms := Query.distinctTerms (Query.tokenize lemmatizer query)
    ∃ builder ranking,
      (Builder.empty .positional).addAll analysis records = .ok (ids records, builder) ∧
      Ranks analysis records terms ranking ∧
      builder.index.search lemmatizer query .ranked = .ok (.found
        ⟨((accepted records).filter (matchesTerms analysis terms)).length, ranking.take 10⟩) := by
  intro terms
  obtain ⟨builder, hadd, hbuilder⟩ := Builder.exists_addAll hfits .positional
  obtain ⟨store, hstore⟩ := Store.exists_positional hbuilder.representation
  have hne : terms ≠ [] := by
    obtain ⟨value, hvalue⟩ := hterms
    exact List.ne_nil_of_mem (Query.mem_distinctTerms.mpr hvalue)
  obtain ⟨ranking, hhits, hranks⟩ := rankedHits_eq hbuilder hstore hfits hne
    fun value hvalue => Query.ne_empty_of_mem_tokenize (Query.mem_distinctTerms.mp hvalue)
  refine ⟨builder, ranking, hadd, hranks, ?_⟩
  have hlength : ((accepted records).filter (matchesTerms analysis terms)).length
      = ranking.length := by
    simpa using hranks.docs.length_eq.symm
  rw [search_ranked_eq hstore hoperators hbalanced hne, hhits, hlength]
  rfl

/-- Two of four records hold both terms, and the one in which they stand side by side comes
first. -/
theorem ranked_search_lists_fox_and_cat :
    let analysis : Analysis := ⟨Text.normalize, id⟩
    let records : List Record :=
      [⟨"a", "The fox saw a cat"⟩, ⟨"b", "the cat"⟩, ⟨"a", "fox, cat"⟩, ⟨"c", "a cat, fox"⟩]
    let terms := Query.distinctTerms (Query.tokenize id "fox AND (cat AND fox)")
    ∃ builder ranking,
      (Builder.empty .positional).addAll analysis records = .ok (ids records, builder) ∧
      Ranks analysis records terms ranking ∧
      builder.index.search id "fox AND (cat AND fox)" .ranked = .ok (.found
        ⟨((accepted records).filter (matchesTerms analysis terms)).length, ranking.take 10⟩) := by
  intro analysis records terms
  have htokens : Query.tokenize id "fox AND (cat AND fox)"
      = [.term "fox", .operator .and, .leftParen, .term "cat", .operator .and, .term "fox",
          .rightParen] := by
    decide +kernel
  have hfits : Corpus.Fits analysis records :=
    ⟨by decide +kernel, by decide +kernel, by decide +kernel⟩
  refine ranked_search_lists_best hfits ?_ ?_ ?_
  · rw [htokens]
    intro op hop
    simpa using hop
  · rw [htokens]
    decide
  · rw [htokens]
    exact ⟨"fox", by decide⟩

end Search

end Retrieval

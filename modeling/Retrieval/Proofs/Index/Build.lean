import Mathlib.Tactic.Common
import Retrieval.Proofs.Index.Consistent
import Retrieval.Proofs.Index.Recording

/-!
# What a builder holds after a corpus

`Builder.addAll` adds the records of a corpus one after the other.  `Describes analysis
representation records builder` is the joint invariant of all that a builder keeps: the table of
documents lists the accepted ones, the table of terms numbers their terms, the two counters stand
behind both tables, and the postings are those of the accepted documents in the sense of `Recorded`.

It holds at the start (`Describes.empty`), each added record carries it on
(`Describes.addDocument`), and so it holds after every corpus that was added to its end
(`Describes.addAll`).  That a corpus is added to its end is a theorem as well: it is, if its records
and its terms can be numbered with 32 bits and so can the tokens of each document
(`exists_addAll`).

What searches need follows from it: the index is consistent, and a document has a term exactly if
the term is one of its stems (`Describes.consistent`, `Describes.hasTerm`).
-/

namespace Retrieval

open Corpus (Document Record accepted idAfter? ids idsAfter terms)
open Posting (Representation Store)
open Retrieval.Symbol (Table)

namespace Builder

open Occurrences (Numbers bindsTo kept)

/-- Adds documents one after the other, and yields the id that each got. -/
def addAll (analysis : Analysis) (builder : Builder) :
    List Record → Except Fault (List (Option UInt32) × Builder)
  | [] => .ok ([], builder)
  | record :: rest => do
    let (id?, builder) ← builder.addDocument analysis record.url record.content
    let (others, builder) ← builder.addAll analysis rest
    return (id? :: others, builder)

lemma addAll_cons (analysis : Analysis) (builder : Builder) (record : Record)
    (rest : List Record) :
    builder.addAll analysis (record :: rest)
      = builder.addDocument analysis record.url record.content >>= fun first =>
          first.2.addAll analysis rest >>= fun others => .ok (first.1 :: others.1, others.2) := rfl

/-- What a builder holds after records were added to it. -/
structure Describes (analysis : Analysis) (representation : Representation)
    (records : List Record) (builder : Builder) : Prop where
  docs : builder.index.docs = .listed ((accepted records).map fun d => (d.url, d.id))
  nextDoc : builder.nextDoc = UInt32.ofNat (records.length + 1)
  calls : records.length + 1 < UInt32.size
  numbers : Numbers ⟨builder.index.terms, builder.nextTerm, .empty⟩ (terms analysis records)
  representation : builder.index.postings.representation = representation
  recorded : Recorded analysis builder.index.terms (accepted records) builder.index.postings

theorem Describes.empty (analysis : Analysis) (representation : Representation) :
    Describes analysis representation [] (empty representation) where
  docs := rfl
  nextDoc := rfl
  calls := by decide
  numbers := ⟨rfl, rfl, (by decide : 0 + 1 < UInt32.size)⟩
  representation := Store.representation_empty representation
  recorded := Recorded.empty analysis _ representation

namespace Describes

variable {analysis : Analysis} {representation : Representation} {records : List Record}
  {builder : Builder}

/-! ## The tables -/

lemma terms_eq (h : Describes analysis representation records builder) :
    builder.index.terms = Table.numbered (Retrieval.distinct (terms analysis records)) :=
  h.numbers.terms

lemma keys_terms (h : Describes analysis representation records builder) :
    builder.index.terms.entries.map Prod.fst
      = Retrieval.distinct (terms analysis records) := by
  rw [h.terms_eq, Table.numbered, Table.entries_listed, List.map_map]
  exact List.map_id _

lemma keys_docs (h : Describes analysis representation records builder) :
    builder.index.docs.entries.map Prod.fst = (accepted records).map (·.url) := by
  rw [h.docs, Table.entries_listed, List.map_map]
  rfl

/-! ## One record -/

lemma lookup_docs (h : Describes analysis representation records builder) (url : String) :
    builder.index.docs.lookup url = none ↔ url ∉ records.map (·.url) := by
  rw [Table.lookup_eq_none, h.keys_docs, Corpus.urls_accepted]

/-- A known address is skipped and uses up an id. -/
lemma addDocument_known (h : Describes analysis representation records builder) {record : Record}
    (hknown : record.url ∈ records.map (·.url)) :
    builder.addDocument analysis record.url record.content
      = checkedAdd builder.nextDoc 1 >>= fun nextDoc =>
          .ok (none, { builder with nextDoc, skipped := builder.skipped + 1 }) := by
  have hbound : (builder.index.docs.lookup record.url).isSome = true := by
    rw [Option.isSome_iff_ne_none, ne_eq, h.lookup_docs, not_not]
    exact hknown
  simp only [Builder.addDocument, hbound, if_true]
  rfl

/-- A new address is bound to the next id. -/
lemma addDocument_new (h : Describes analysis representation records builder) {record : Record}
    (hnew : record.url ∉ records.map (·.url)) :
    builder.addDocument analysis record.url record.content
      = checkedAdd builder.nextDoc 1 >>= fun nextDoc =>
          (⟨builder.index.terms, builder.nextTerm, .empty⟩ : Occurrences).addAll
              analysis.lemmatize 0 (analysis.normalize record.content) >>= fun seen =>
            .ok (some builder.nextDoc,
              { builder with
                index := ⟨seen.terms,
                  .listed ((accepted records).map (fun d => (d.url, d.id))
                    ++ [(record.url, builder.nextDoc)]),
                  recordAll (builder.index.postings.register builder.nextDoc) builder.nextDoc
                    seen.positions⟩
                nextDoc
                nextTerm := seen.nextTerm }) := by
  have hlookup := (h.lookup_docs record.url).mpr hnew
  have habove : ∀ entry ∈ (accepted records).map fun d => (d.url, d.id),
      entry.2 < builder.nextDoc := by
    intro entry hentry
    obtain ⟨document, hdocument, rfl⟩ := List.mem_map.mp hentry
    rw [h.nextDoc]
    exact Corpus.id_lt_of_mem_accepted h.calls hdocument
  have hinsert : builder.index.docs.insert record.url builder.nextDoc
      = .ok (builder.nextDoc, .listed ((accepted records).map (fun d => (d.url, d.id))
          ++ [(record.url, builder.nextDoc)])) := by
    rw [h.docs] at hlookup ⊢
    exact Table.insert_listed hlookup habove
  simp only [Builder.addDocument, hlookup, hinsert, Option.isSome_none, Bool.false_eq_true,
    if_false]
  rfl

/-- All terms of the documents are bound. -/
lemma lookup_of_mem_stems (h : Describes analysis representation records builder)
    {document : Document} (hdocument : document ∈ accepted records) {stem : String}
    (hstem : stem ∈ document.stems analysis) (hne : stem ≠ "") :
    ∃ id, builder.index.terms.lookup stem = some id := by
  have hmem : stem ∈ terms analysis records := by
    refine List.mem_flatMap.mpr ⟨document, hdocument, ?_⟩
    exact List.mem_filter.mpr ⟨hstem, by simpa using hne⟩
  rw [h.terms_eq]
  exact ⟨_, Table.lookup_numbered.mpr ⟨mem_distinct.mpr hmem, rfl⟩⟩

/-- Adding a record counts on by one, and that fits. -/
lemma nextDoc_succ (h : Describes analysis representation records builder) (record : Record)
    {nextDoc : UInt32} (hadded : checkedAdd builder.nextDoc 1 = .ok nextDoc) :
    nextDoc = UInt32.ofNat ((records ++ [record]).length + 1) ∧
      (records ++ [record]).length + 1 < UInt32.size := by
  obtain ⟨hfits, rfl⟩ := checkedAdd_eq_ok.mp hadded
  rw [h.nextDoc, UInt32.toNat_ofNat_of_lt' h.calls] at hfits
  rw [h.nextDoc, List.length_append, List.length_singleton, UInt32.ofNat_add (_ + 1) 1]
  exact ⟨rfl, hfits⟩

/-- A record with a known address gets no id and adds no document and no term. -/
lemma addDocument_of_known (h : Describes analysis representation records builder)
    {record : Record} (hknown : record.url ∈ records.map (·.url)) {id? : Option UInt32}
    {later : Builder}
    (hadd : builder.addDocument analysis record.url record.content = .ok (id?, later)) :
    id? = idAfter? records record ∧
      Describes analysis representation (records ++ [record]) later := by
  rw [h.addDocument_known hknown] at hadd
  obtain ⟨nextDoc, hadded, hadd⟩ := bind_eq_ok.mp hadd
  cases hadd
  obtain ⟨hnextDoc, hcalls⟩ := h.nextDoc_succ record hadded
  have hnone : idAfter? records record = none := if_pos hknown
  have haccepted : accepted (records ++ [record]) = accepted records := by
    simp [Corpus.accepted_append_singleton, hnone]
  have hterms : terms analysis (records ++ [record]) = terms analysis records := by
    rw [terms, haccepted, terms]
  refine ⟨hnone.symm, ?_, hnextDoc, hcalls, ?_, h.representation, ?_⟩
  · rw [haccepted]
    exact h.docs
  · rw [hterms]
    exact h.numbers
  · rw [haccepted]
    exact h.recorded

/-- A record with a new address gets the next id, and adds its document and its terms. -/
lemma addDocument_of_new (h : Describes analysis representation records builder)
    {record : Record} (hnew : record.url ∉ records.map (·.url)) {id? : Option UInt32}
    {later : Builder}
    (hadd : builder.addDocument analysis record.url record.content = .ok (id?, later)) :
    id? = idAfter? records record ∧
      Describes analysis representation (records ++ [record]) later := by
  rw [h.addDocument_new hnew] at hadd
  obtain ⟨nextDoc, hadded, hadd⟩ := bind_eq_ok.mp hadd
  obtain ⟨seen, hseen, hadd⟩ := bind_eq_ok.mp hadd
  cases hadd
  obtain ⟨hnextDoc, hcalls⟩ := h.nextDoc_succ record hadded
  have hsome : idAfter? records record = some builder.nextDoc := by
    rw [idAfter?, if_neg hnew, h.nextDoc]
  have haccepted : accepted (records ++ [record])
      = accepted records ++ [record.document builder.nextDoc] := by
    rw [Corpus.accepted_append_singleton, hsome]
    rfl
  have hnumbers := Occurrences.addAll_numbers h.numbers hseen
  refine ⟨hsome.symm, ?_, hnextDoc, hcalls, ?_, ?_, ?_⟩
  · rw [haccepted, List.map_append]
    rfl
  · rw [Corpus.terms_append_singleton, if_neg hnew]
    exact ⟨hnumbers.terms, hnumbers.nextTerm, hnumbers.bound⟩
  · rw [representation_recordAll, Store.representation_register]
    exact h.representation
  · -- the earlier documents are read through the grown table, and then comes the new one
    rw [haccepted]
    have hearlier := h.recorded.mono (Occurrences.addAll_extends hseen)
      fun document hdocument stem hstem hne => h.lookup_of_mem_stems hdocument hstem hne
    refine hearlier.append (record.document builder.nextDoc) ?_ ?_
    · intro other hother
      rw [Record.document, h.nextDoc]
      exact Corpus.id_lt_of_mem_accepted h.calls hother
    · exact fun id => Occurrences.get?_addAll hseen (Table.Extends.refl _) id

/-- **One record.**  Adding a record that can be added yields its id and carries the invariant
on. -/
theorem addDocument (h : Describes analysis representation records builder) {record : Record}
    {id? : Option UInt32} {later : Builder}
    (hadd : builder.addDocument analysis record.url record.content = .ok (id?, later)) :
    id? = idAfter? records record ∧
      Describes analysis representation (records ++ [record]) later := by
  by_cases hknown : record.url ∈ records.map (·.url)
  · exact h.addDocument_of_known hknown hadd
  · exact h.addDocument_of_new hknown hadd

/-- A record that fits can be added. -/
theorem exists_addDocument (h : Describes analysis representation records builder)
    {record : Record} (hfits : Corpus.Fits analysis (records ++ [record])) :
    ∃ id? later, builder.addDocument analysis record.url record.content = .ok (id?, later) := by
  have hnext : checkedAdd builder.nextDoc 1 = .ok (UInt32.ofNat (records.length + 2)) := by
    have := hfits.calls
    rw [List.length_append, List.length_singleton] at this
    rw [h.nextDoc]
    exact checkedAdd_ofNat_one this
  by_cases hknown : record.url ∈ records.map (·.url)
  · rw [h.addDocument_known hknown, hnext]
    exact ⟨none, _, rfl⟩
  · have hterms := hfits.terms
    rw [Corpus.terms_append_singleton, if_neg hknown] at hterms
    have htokens : (analysis.normalize record.content).length < UInt32.size := by
      refine hfits.tokens (record.document (UInt32.ofNat (records.length + 1))) ?_
      simp [Corpus.accepted_append_singleton, idAfter?, hknown]
    rw [← Nat.zero_add (List.length _)] at htokens
    obtain ⟨seen, hseen⟩ := Occurrences.exists_addAll h.numbers hterms htokens
    rw [h.addDocument_new hknown, hnext, ok_bind, hseen]
    exact ⟨some builder.nextDoc, _, rfl⟩

/-! ## All records -/

/-- **A run.**  Adding records that can all be added yields their ids and carries the invariant
on. -/
theorem addAll (h : Describes analysis representation records builder) {more : List Record}
    {answers : List (Option UInt32)} {later : Builder}
    (hadd : builder.addAll analysis more = .ok (answers, later)) :
    answers = idsAfter records more ∧
      Describes analysis representation (records ++ more) later := by
  induction more generalizing records builder answers with
  | nil =>
    cases hadd
    rw [List.append_nil]
    exact ⟨rfl, h⟩
  | cons record rest ih =>
    rw [addAll_cons] at hadd
    obtain ⟨⟨id?, between⟩, hfirst, hadd⟩ := bind_eq_ok.mp hadd
    obtain ⟨⟨others, last⟩, hrest, hadd⟩ := bind_eq_ok.mp hadd
    cases hadd
    obtain ⟨rfl, hbetween⟩ := h.addDocument hfirst
    obtain ⟨rfl, hlast⟩ := ih hbetween hrest
    rw [List.append_assoc] at hlast
    exact ⟨rfl, hlast⟩

/-- Records that fit can all be added. -/
theorem exists_addAll (h : Describes analysis representation records builder)
    {more : List Record} (hfits : Corpus.Fits analysis (records ++ more)) :
    ∃ answers later, builder.addAll analysis more = .ok (answers, later) := by
  induction more generalizing records builder with
  | nil => exact ⟨[], builder, rfl⟩
  | cons record rest ih =>
    rw [← List.singleton_append, ← List.append_assoc] at hfits
    obtain ⟨id?, between, hfirst⟩ := h.exists_addDocument hfits.before
    obtain ⟨others, last, hrest⟩ := ih (h.addDocument hfirst).2 hfits
    rw [addAll_cons, hfirst, ok_bind, hrest]
    exact ⟨_, _, rfl⟩

/-! ## What searches need -/

lemma byId_docs (h : Describes analysis representation records builder) :
    builder.index.docs.byId = (accepted records).map fun d => (d.id, d.url) := by
  rw [h.docs, Table.byId_listed, List.map_map]
  rfl

lemma ids_docs (h : Describes analysis representation records builder) :
    builder.index.docs.ids = (accepted records).map (·.id) := by
  rw [Table.ids, h.byId_docs, List.map_map]
  rfl

/-- The parts of a built index fit together. -/
theorem consistent (h : Describes analysis representation records builder) :
    builder.index.Consistent where
  reversible := by rw [h.docs, Table.mode_listed]
  ascending := by
    rw [h.ids_docs]
    exact Corpus.ascending_ids h.calls
  canonical := h.recorded.canonical
  bound hdoc := by
    obtain ⟨document, hdocument, rfl, -⟩ := h.recorded.docsFor.mp hdoc
    rw [h.ids_docs]
    exact List.mem_map_of_mem hdocument
  registered hstore := by rw [h.recorded.registered hstore, h.ids_docs]

/-- An id is bound to one stem. -/
lemma bindsTo_iff (h : Describes analysis representation records builder) {term : String}
    (hne : term ≠ "") {id : UInt32} (hid : builder.index.termId term = some id) {stem : String} :
    bindsTo builder.index.terms id stem = true ↔ stem = term := by
  rw [bindsTo, decide_eq_true_iff]
  constructor
  · rintro ⟨-, hstem⟩
    rw [Index.termId, h.terms_eq] at hid
    rw [h.terms_eq] at hstem
    exact Table.eq_of_lookup_numbered h.numbers.bound hstem hid
  · rintro rfl
    exact ⟨hne, hid⟩

/-- **Terms and stems.**  In a built index a document has exactly its stems for terms. -/
theorem hasTerm (h : Describes analysis representation records builder) {document : Document}
    (hdocument : document ∈ accepted records) {term : String} (hne : term ≠ "") :
    builder.index.hasTerm document.id term = decide (term ∈ document.stems analysis) := by
  rw [Bool.eq_iff_iff, decide_eq_true_iff, Index.hasTerm]
  cases hid : builder.index.termId term with
  | none =>
    refine ⟨fun hfalse => by simp at hfalse, fun hstem => ?_⟩
    obtain ⟨id, hsome⟩ := h.lookup_of_mem_stems hdocument hstem hne
    rw [Index.termId, hsome] at hid
    cases hid
  | some id =>
    change builder.index.postings.contains id document.id = true ↔ _
    rw [Store.contains_iff h.recorded.canonical, h.recorded.docsFor]
    simp only [h.bindsTo_iff hne hid]
    constructor
    · rintro ⟨other, hother, hsame, stem, hstem, rfl⟩
      obtain rfl := Corpus.eq_of_id_eq h.calls hother hdocument hsame
      exact hstem
    · intro hstem
      exact ⟨document, hdocument, rfl, term, hstem, rfl⟩

/-- The positions kept for an id in a document are the places of the stems bound to it. -/
lemma mem_positions? (h : Describes analysis representation records builder)
    (hpositional : representation = .positional) (hfits : Corpus.Fits analysis records)
    {document : Document} (hdocument : document ∈ accepted records) {id position : UInt32} :
    position ∈ (builder.index.postings.positions? id document.id).getD [] ↔
      ∃ place stem, (document.stems analysis)[place]? = some stem ∧
        bindsTo builder.index.terms id stem = true ∧ position.toNat = place + 1 := by
  have hpositions :=
    h.recorded.positions (h.representation.trans hpositional) document hdocument id
  have hgetD : ∀ found : List UInt32, (withPlaces none found).getD [] = found := by
    intro found
    cases found <;> rfl
  rw [hpositions, hgetD, mem_places]
  refine exists_congr fun place => exists_congr fun stem => and_congr_right fun hstem =>
    and_congr_right fun _ => ?_
  rw [Nat.zero_add, ← UInt32.toNat_inj, hfits.toNat_place hdocument hstem]

/-- A document with a term is found with its address. -/
lemma lookup_byId (h : Describes analysis representation records builder) {document : Document}
    (hdocument : document ∈ accepted records) :
    builder.index.docs.byId.lookup document.id = some document.url := by
  have hnodup : (builder.index.docs.byId.map Prod.fst).Nodup :=
    h.consistent.ascending.imp UInt32.ne_of_lt
  rw [lookup_eq_some_iff_mem hnodup, h.byId_docs]
  exact List.mem_map.mpr ⟨document, hdocument, rfl⟩

end Describes

/-- **Every corpus that fits is indexed.**  The ids are those that the corpus alone determines, and
the builder holds the accepted documents. -/
theorem exists_addAll {analysis : Analysis} {records : List Record}
    (hfits : Corpus.Fits analysis records) (representation : Representation) :
    ∃ builder, (empty representation).addAll analysis records = .ok (ids records, builder) ∧
      Describes analysis representation records builder := by
  have hempty := Describes.empty analysis representation
  obtain ⟨answers, builder, hadd⟩ := hempty.exists_addAll hfits
  obtain ⟨rfl, hbuilder⟩ := hempty.addAll hadd
  exact ⟨builder, hadd, hbuilder⟩

end Builder

end Retrieval

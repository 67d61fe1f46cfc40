import Mathlib.Tactic.Common
import Retrieval.Proofs.Index.Build
import Retrieval.Text.Normalize

/-!
# The joint invariant of a built index

An index has two tables and a posting store, and a builder advances them one by one.  `Joint` says
in one place what they have to do with each other and with the records that were added: which ids
the tables bind, which pairs are recorded with which positions, and that no part refers to anything
that another one does not know.

All of it rests on the counters.  Whenever something is bound they stand above all bound ids
(`NeverProbes`), so a new lemma or address takes the id that is proposed, and the ids are what the
records alone make them: the lemmas are numbered as they come, and an address has the number of the
first record with it.
-/

namespace Retrieval

open Corpus (Document Record accepted ids terms)
open Posting (Representation Store)
open Retrieval.Symbol (Table)

namespace Builder

open Occurrences (Numbers bindsTo)

/-! ## Counters -/

lemma Occurrences.Numbers.ahead {seen : Occurrences} {stems : List String}
    (h : seen.Numbers stems) : seen.terms.Ahead seen.nextTerm := by
  refine Table.ahead_of_forall_lt fun id hid => ?_
  rw [h.terms, Table.numbered, Table.ids_listed, List.map_map] at hid
  obtain ⟨key, hkey, rfl⟩ := List.mem_map.mp hid
  rw [h.nextTerm]
  exact Table.idIn_lt h.bound hkey

/-- Whether the counters stand above all bound ids whenever a record is added that is not skipped:
that of the documents before it, and that of the lemmas before each of its tokens. -/
def NeverProbes (analysis : Analysis) (representation : Representation) (records : List Record) :
    Prop :=
  ∀ earlier record later, records = earlier ++ record :: later →
    record.url ∉ earlier.map (·.url) →
      ∃ before, (empty representation).addAll analysis earlier = .ok (ids earlier, before) ∧
        before.index.docs.Ahead before.nextDoc ∧
        ∀ tokens rest, analysis.normalize record.content = tokens ++ rest →
          ∃ seen, (⟨before.index.terms, before.nextTerm, .empty⟩ : Occurrences).addAll
              analysis.lemmatize 0 tokens = .ok seen ∧
            seen.terms.Ahead seen.nextTerm

/-- What the parts of a built index have to do with each other and with the records. -/
structure Joint (analysis : Analysis) (representation : Representation) (records : List Record)
    (builder : Builder) : Prop where
  /-- The lemmas are bound in the order in which they first came, -/
  lemmas : builder.index.terms.entries.map Prod.fst = distinct (terms analysis records)
  /-- and to the numbers from 1 on. -/
  numbers : builder.index.terms.entries.map (·.2.toNat)
    = List.range' 1 builder.index.terms.size
  /-- An address is bound to the place of the first record that has it. -/
  addresses : ∀ {url id}, builder.index.docs.lookup url = some id ↔
    ∃ earlier content later, records = earlier ++ ⟨url, content⟩ :: later ∧
      url ∉ earlier.map (·.url) ∧ id.toNat = earlier.length + 1
  ahead : builder.index.docs.Ahead builder.nextDoc ∧ builder.index.terms.Ahead builder.nextTerm
  /-- A pair is recorded if the lemma occurs in the document. -/
  pairs : ∀ {term doc}, builder.index.postings.contains term doc = true ↔
    ∃ document ∈ accepted records, document.id = doc ∧ ∃ stem ∈ document.stems analysis,
      stem ≠ "" ∧ builder.index.terms.lookup stem = some term
  posted : ∀ {stem term}, builder.index.terms.lookup stem = some term →
    ∃ doc, builder.index.postings.contains term doc = true
  termCount : builder.index.postings.termCount = builder.index.terms.size
  bound : ∀ doc ∈ builder.index.postings.referenced, doc ∈ builder.index.docs.ids
  /-- Positions are the places of the tokens with that lemma, counted from 1. -/
  positions : representation = .positional → ∀ document ∈ accepted records, ∀ {stem term},
    stem ∈ document.stems analysis → builder.index.terms.lookup stem = some term →
      ∃ positions, builder.index.postings.positions? term document.id = some positions ∧
        positions.Pairwise (· < ·) ∧ ∀ position, position ∈ positions ↔
          ∃ offset token, (analysis.normalize document.content)[offset]? = some token ∧
            analysis.lemmatize token = stem ∧ position.toNat = offset + 1
  registered : representation = .bitset →
    builder.index.postings.registered = builder.index.docs.ids

namespace Describes

variable {analysis : Analysis} {representation : Representation} {records : List Record}
  {builder : Builder}

lemma ahead_docs (h : Describes analysis representation records builder) :
    builder.index.docs.Ahead builder.nextDoc := by
  refine Table.ahead_of_forall_lt fun id hid => ?_
  rw [h.ids_docs] at hid
  obtain ⟨document, hdocument, rfl⟩ := List.mem_map.mp hid
  rw [h.nextDoc]
  exact Corpus.id_lt_of_mem_accepted h.calls hdocument

lemma ahead_terms (h : Describes analysis representation records builder) :
    builder.index.terms.Ahead builder.nextTerm :=
  h.numbers.ahead

/-- The tokens of a new document are passed through one by one, the counter always ahead. -/
lemma exists_ahead (h : Describes analysis representation records builder) {record : Record}
    (hfits : Corpus.Fits analysis (records ++ [record]))
    (hnew : record.url ∉ records.map (·.url)) {tokens rest : List String}
    (htokens : analysis.normalize record.content = tokens ++ rest) :
    ∃ seen, (⟨builder.index.terms, builder.nextTerm, .empty⟩ : Occurrences).addAll
        analysis.lemmatize 0 tokens = .ok seen ∧ seen.terms.Ahead seen.nextTerm := by
  -- all tokens are passed through, and so the first of them were
  obtain ⟨id?, later, hadd⟩ := h.exists_addDocument hfits
  rw [h.addDocument_new hnew] at hadd
  obtain ⟨_, -, hadd⟩ := bind_eq_ok.mp hadd
  obtain ⟨all, hall, -⟩ := bind_eq_ok.mp hadd
  rw [htokens, Occurrences.addAll_append] at hall
  obtain ⟨seen, hseen, -⟩ := bind_eq_ok.mp hall
  exact ⟨seen, hseen, (Occurrences.addAll_numbers h.numbers hseen).ahead⟩

/-! ## Tables -/

lemma lookup_docs_eq_some (h : Describes analysis representation records builder) {url : String}
    {id : UInt32} :
    builder.index.docs.lookup url = some id ↔
      ∃ earlier content later, records = earlier ++ ⟨url, content⟩ :: later ∧
        url ∉ earlier.map (·.url) ∧ id.toNat = earlier.length + 1 := by
  have hkeys : (builder.index.docs.entries.map Prod.fst).Nodup := by
    rw [h.keys_docs]
    exact Corpus.nodup_urls_accepted records
  have hplace : ∀ {earlier : List Record} {record : Record} {later : List Record},
      records = earlier ++ record :: later →
        (id = UInt32.ofNat (earlier.length + 1) ↔ id.toNat = earlier.length + 1) := by
    intro earlier record later hrecords
    have hcalls := h.calls
    rw [hrecords, List.length_append, List.length_cons] at hcalls
    rw [← UInt32.toNat_inj, UInt32.toNat_ofNat_of_lt' (by omega)]
  rw [Table.lookup, lookup_eq_some_iff_mem hkeys, h.docs, Table.entries_listed, List.mem_map]
  constructor
  · rintro ⟨document, hdocument, hpair⟩
    cases hpair
    obtain ⟨earlier, later, hrecords, hnew, hid⟩ := Corpus.mem_accepted.mp hdocument
    exact ⟨earlier, _, later, hrecords, hnew, (hplace hrecords).mp hid⟩
  · rintro ⟨earlier, content, later, hrecords, hnew, hid⟩
    exact ⟨⟨id, url, content⟩,
      Corpus.mem_accepted.mpr ⟨earlier, later, hrecords, hnew, (hplace hrecords).mpr hid⟩, rfl⟩

/-- The ids of the lemmas run from 1 on without gaps. -/
lemma toNat_ids_terms (h : Describes analysis representation records builder) :
    builder.index.terms.entries.map (·.2.toNat) = List.range' 1 builder.index.terms.size := by
  rw [h.terms_eq, Table.toNat_ids_numbered h.numbers.bound (nodup_distinct _), Table.size,
    Table.numbered, Table.entries_listed, List.length_map]

/-- A bound lemma is one of the stems of an accepted document. -/
lemma exists_document_of_lookup (h : Describes analysis representation records builder)
    {stem : String} {term : UInt32} (hlookup : builder.index.terms.lookup stem = some term) :
    stem ≠ "" ∧ ∃ document ∈ accepted records, stem ∈ document.stems analysis := by
  rw [h.terms_eq, Table.lookup_numbered, mem_distinct] at hlookup
  obtain ⟨document, hdocument, hkept⟩ := List.mem_flatMap.mp hlookup.1
  obtain ⟨hstem, hne⟩ := List.mem_filter.mp hkept
  exact ⟨by simpa using hne, document, hdocument, hstem⟩

/-! ## Postings -/

lemma contains_iff (h : Describes analysis representation records builder) {term doc : UInt32} :
    builder.index.postings.contains term doc = true ↔
      ∃ document ∈ accepted records, document.id = doc ∧ ∃ stem ∈ document.stems analysis,
        stem ≠ "" ∧ builder.index.terms.lookup stem = some term := by
  rw [Store.contains_iff h.recorded.canonical, h.recorded.docsFor]
  simp only [bindsTo, decide_eq_true_iff]

/-- Every bound lemma has a posting. -/
lemma exists_contains (h : Describes analysis representation records builder) {stem : String}
    {term : UInt32} (hlookup : builder.index.terms.lookup stem = some term) :
    ∃ doc, builder.index.postings.contains term doc = true := by
  obtain ⟨hne, document, hdocument, hstem⟩ := h.exists_document_of_lookup hlookup
  exact ⟨document.id, h.contains_iff.mpr ⟨document, hdocument, rfl, stem, hstem, hne, hlookup⟩⟩

/-- The postings count the bound lemmas. -/
lemma termCount_eq (h : Describes analysis representation records builder) :
    builder.index.postings.termCount = builder.index.terms.size := by
  have hkeys : (builder.index.terms.entries.map Prod.fst).Nodup := by
    rw [h.keys_terms]
    exact nodup_distinct _
  have hids : (builder.index.terms.entries.map Prod.snd).Nodup := by
    refine List.Nodup.of_map UInt32.toNat ?_
    rw [List.map_map]
    exact h.toNat_ids_terms ▸ List.nodup_range'
  rw [Store.termCount, IdSet.card_eq_length hids, List.length_map, Table.size]
  intro term
  rw [Store.mem_terms h.recorded.canonical, List.mem_map]
  simp only [← Store.contains_iff h.recorded.canonical]
  constructor
  · rintro ⟨doc, hcontains⟩
    obtain ⟨_, -, -, stem, -, -, hlookup⟩ := h.contains_iff.mp hcontains
    exact ⟨(stem, term), (lookup_eq_some_iff_mem hkeys).mp hlookup, rfl⟩
  · rintro ⟨⟨stem, term⟩, hentry, rfl⟩
    exact h.exists_contains ((lookup_eq_some_iff_mem hkeys).mpr hentry)

/-- The positions of a lemma in a document that it occurs in. -/
lemma exists_positions (h : Describes analysis representation records builder)
    (hfits : Corpus.Fits analysis records) (hpositional : representation = .positional)
    {document : Document} (hdocument : document ∈ accepted records) {stem : String} {term : UInt32}
    (hstem : stem ∈ document.stems analysis)
    (hlookup : builder.index.terms.lookup stem = some term) :
    ∃ positions, builder.index.postings.positions? term document.id = some positions ∧
      positions.Pairwise (· < ·) ∧ ∀ position, position ∈ positions ↔
        ∃ offset token, (analysis.normalize document.content)[offset]? = some token ∧
          analysis.lemmatize token = stem ∧ position.toNat = offset + 1 := by
  have hrepresentation := h.representation.trans hpositional
  obtain ⟨hne, -⟩ := h.exists_document_of_lookup hlookup
  have hcontains := h.contains_iff.mpr ⟨document, hdocument, rfl, stem, hstem, hne, hlookup⟩
  rw [Store.contains_iff h.recorded.canonical, Store.mem_docsFor_iff_positions? hrepresentation,
    Option.isSome_iff_exists] at hcontains
  obtain ⟨positions, hpositions⟩ := hcontains
  refine ⟨positions, hpositions, ?_, fun position => ?_⟩
  · have hplaces := h.recorded.positions hrepresentation document hdocument term
    rw [hpositions] at hplaces
    have hlength : 0 + (document.stems analysis).length < UInt32.size := by
      rw [Nat.zero_add, Document.stems, Analysis.stems, List.length_map]
      exact hfits.tokens document hdocument
    have hascending : (places (bindsTo builder.index.terms term) 0
        (document.stems analysis)).Pairwise (· < ·) := ascending_places hlength
    unfold withPlaces at hplaces
    split at hplaces
    · cases hplaces
    · cases hplaces
      exact hascending
  · have hmem : position ∈ (builder.index.postings.positions? term document.id).getD [] ↔ _ :=
      h.mem_positions? hpositional hfits hdocument
    rw [hpositions] at hmem
    refine hmem.trans ?_
    simp only [h.bindsTo_iff hne hlookup, Document.stems, Analysis.stems, List.getElem?_map,
      Option.map_eq_some_iff]
    constructor
    · rintro ⟨offset, _, ⟨token, htoken, hlemma⟩, rfl, hposition⟩
      exact ⟨offset, token, htoken, hlemma, hposition⟩
    · rintro ⟨offset, token, htoken, hlemma, hposition⟩
      exact ⟨offset, stem, ⟨token, htoken, hlemma⟩, rfl, hposition⟩

/-- **The parts of a built index fit together**, whatever its layout. -/
theorem joint (h : Describes analysis representation records builder)
    (hfits : Corpus.Fits analysis records) :
    Joint analysis representation records builder where
  lemmas := h.keys_terms
  numbers := h.toNat_ids_terms
  addresses := h.lookup_docs_eq_some
  ahead := ⟨h.ahead_docs, h.ahead_terms⟩
  pairs := h.contains_iff
  posted := h.exists_contains
  termCount := h.termCount_eq
  bound _ hdoc := h.consistent.mem_ids_of_referenced hdoc
  positions hpositional _ hdocument _ _ := h.exists_positions hfits hpositional hdocument
  registered hbitset := h.consistent.registered (h.representation.trans hbitset)

end Describes

/-! ## Every run -/

/-- No run meets an id that is taken. -/
lemma neverProbes {analysis : Analysis} {records : List Record}
    (hfits : Corpus.Fits analysis records) (representation : Representation) :
    NeverProbes analysis representation records := by
  rintro earlier record later rfl hnew
  obtain ⟨before, hadd, hbefore⟩ := exists_addAll hfits.before representation
  rw [← List.singleton_append, ← List.append_assoc] at hfits
  exact ⟨before, hadd, hbefore.ahead_docs, fun _ _ => hbefore.exists_ahead hfits.before hnew⟩

/-- **A built index satisfies its joint invariant.**  Let records be added that can be numbered with
32 bits, and their terms, and the tokens of each document.  Then all of them are added, no id is
probed for on the way, and in the end the parts of the index fit together. -/
theorem built_index_keeps_joint_invariant {analysis : Analysis} {records : List Record}
    (hfits : Corpus.Fits analysis records) (representation : Representation) :
    NeverProbes analysis representation records ∧
      ∃ builder, (empty representation).addAll analysis records = .ok (ids records, builder) ∧
        Joint analysis representation records builder := by
  obtain ⟨builder, hadd, hbuilder⟩ := exists_addAll hfits representation
  exact ⟨neverProbes hfits representation, builder, hadd, hbuilder.joint hfits⟩

/-- A corpus with an address that comes twice, lemmas that come again, and tokens whose lemma is
empty.  The record that is skipped uses up the id 2. -/
theorem repetitions_keep_joint_invariant :
    let analysis : Analysis := ⟨Text.normalize, fun token => if token = "the" then "" else token⟩
    let records : List Record :=
      [⟨"a", "The fox, the red fox"⟩, ⟨"a", "cat"⟩, ⟨"b", "red cat"⟩]
    Corpus.Fits analysis records ∧ ids records = [some 1, none, some 3] ∧
      NeverProbes analysis .positional records ∧
      ∃ builder, (empty .positional).addAll analysis records = .ok (ids records, builder) ∧
        Joint analysis .positional records builder := by
  intro analysis records
  have hfits : Corpus.Fits analysis records :=
    ⟨by decide +kernel, by decide +kernel, by decide +kernel⟩
  exact ⟨hfits, by decide +kernel, built_index_keeps_joint_invariant hfits .positional⟩

end Builder

end Retrieval

import Mathlib.Data.List.Induction
import Mathlib.Tactic.Common
import Retrieval.Corpus.Ingest
import Retrieval.Proofs.Index.Occurrences

/-!
# What a corpus holds

The meaning of a sequence of records, told without an index.  A record is accepted if no record
before it has its address, and its id is its place in the sequence, counted from 1: skipped records
take up ids too.  `ids` lists what each record gets, and `accepted` the documents that come of it.

A document holds the stems of its content; those that are not empty are its terms, and `terms`
lists the terms of all accepted documents, document by document.

Everything grows at its end: what a record adds depends on the records before it alone
(`accepted_append_singleton`, `terms_append_singleton`), which is how a builder meets them.
-/

namespace Retrieval.Corpus

/-- A document that was accepted, with the id that it got. -/
structure Document where
  id : UInt32
  url : String
  content : String
  deriving Repr, DecidableEq

/-- The stems of a document, one for each token. -/
def Document.stems (analysis : Analysis) (document : Document) : List String :=
  analysis.stems document.content

/-- The id of a record after others, unless its address is known by then. -/
def idAfter? (earlier : List Record) (record : Record) : Option UInt32 :=
  if record.url ∈ earlier.map (·.url) then none else some (UInt32.ofNat (earlier.length + 1))

/-- The ids of records after others. -/
def idsAfter (earlier : List Record) : List Record → List (Option UInt32)
  | [] => []
  | record :: rest => idAfter? earlier record :: idsAfter (earlier ++ [record]) rest

/-- The id of each record; a skipped one has none. -/
def ids (records : List Record) : List (Option UInt32) :=
  idsAfter [] records

/-- The document that comes of a record that gets an id. -/
def Record.document (record : Record) (id : UInt32) : Document :=
  ⟨id, record.url, record.content⟩

/-- The accepted documents, in the order of the records. -/
def accepted (records : List Record) : List Document :=
  (records.zip (ids records)).filterMap fun (record, id?) => id?.map record.document

/-- The terms of all accepted documents, document by document. -/
def terms (analysis : Analysis) (records : List Record) : List String :=
  (accepted records).flatMap fun document =>
    Builder.Occurrences.kept (document.stems analysis)

/-! ## One more record -/

lemma idsAfter_append (earlier records more : List Record) :
    idsAfter earlier (records ++ more)
      = idsAfter earlier records ++ idsAfter (earlier ++ records) more := by
  induction records generalizing earlier with
  | nil => simp [idsAfter]
  | cons record rest ih => simp [idsAfter, ih]

lemma length_idsAfter (earlier records : List Record) :
    (idsAfter earlier records).length = records.length := by
  induction records generalizing earlier with
  | nil => rfl
  | cons record rest ih => simp [idsAfter, ih]

lemma accepted_append_singleton (records : List Record) (record : Record) :
    accepted (records ++ [record])
      = accepted records ++ ((idAfter? records record).map record.document).toList := by
  have hlength : records.length = (ids records).length := (length_idsAfter [] records).symm
  have hids : ids (records ++ [record]) = ids records ++ [idAfter? records record] := by
    rw [ids, idsAfter_append]
    rfl
  rw [accepted, hids, List.zip_append hlength, List.filterMap_append]
  cases h : idAfter? records record <;> simp [accepted]

lemma terms_append_singleton (analysis : Analysis) (records : List Record) (record : Record) :
    terms analysis (records ++ [record])
      = terms analysis records
        ++ if record.url ∈ records.map (·.url) then []
          else Builder.Occurrences.kept (analysis.stems record.content) := by
  rw [terms, accepted_append_singleton, List.flatMap_append, idAfter?]
  split
  · simp [terms]
  · simp [terms, Record.document, Document.stems]

/-- Records that follow change nothing about the documents before them. -/
lemma accepted_mono (records more : List Record) :
    accepted records <+: accepted (records ++ more) := by
  induction more using List.reverseRecOn with
  | nil => simp
  | append_singleton more record ih =>
    rw [← List.append_assoc, accepted_append_singleton]
    exact ih.trans (List.prefix_append _ _)

lemma terms_mono (analysis : Analysis) (records more : List Record) :
    terms analysis records <+: terms analysis (records ++ more) := by
  obtain ⟨later, hlater⟩ := accepted_mono records more
  rw [terms, terms, ← hlater, List.flatMap_append]
  exact List.prefix_append _ _

/-! ## Corpora that can be indexed -/

/-- The records and the terms can be numbered with 32 bits, and the tokens of each document. -/
structure Fits (analysis : Analysis) (records : List Record) : Prop where
  calls : records.length + 1 < UInt32.size
  terms : (distinct (terms analysis records)).length + 1 < UInt32.size
  tokens : ∀ document ∈ accepted records,
    (analysis.normalize document.content).length < UInt32.size

lemma Fits.before {analysis : Analysis} {records more : List Record}
    (h : Fits analysis (records ++ more)) : Fits analysis records where
  calls := by
    have := h.calls
    rw [List.length_append] at this
    omega
  terms := by
    obtain ⟨later, hlater⟩ := terms_mono analysis records more
    have := h.terms
    rw [← hlater, distinct_append, List.length_append] at this
    omega
  tokens document hdocument :=
    h.tokens document ((accepted_mono records more).subset hdocument)

/-- The place of a stem fits. -/
lemma Fits.toNat_place {analysis : Analysis} {records : List Record} (h : Fits analysis records)
    {document : Document} (hdocument : document ∈ accepted records) {place : Nat} {stem : String}
    (hstem : (document.stems analysis)[place]? = some stem) :
    (UInt32.ofNat (place + 1)).toNat = place + 1 := by
  obtain ⟨hbelow, -⟩ := List.getElem?_eq_some_iff.mp hstem
  have htokens := h.tokens document hdocument
  rw [Document.stems, Analysis.stems, List.length_map] at hbelow
  exact UInt32.toNat_ofNat_of_lt' (by omega)

/-! ## Ids and addresses -/

lemma urls_accepted (records : List Record) (url : String) :
    url ∈ (accepted records).map (·.url) ↔ url ∈ records.map (·.url) := by
  induction records using List.reverseRecOn with
  | nil => simp [accepted, ids, idsAfter]
  | append_singleton records record ih =>
    rw [accepted_append_singleton, List.map_append, List.map_append, List.mem_append,
      List.mem_append, ih, idAfter?]
    split
    · rename_i hknown
      simp only [Option.map_none, Option.toList_none, List.map_nil, List.not_mem_nil, or_false,
        List.map_cons, List.mem_singleton]
      refine ⟨Or.inl, fun h => h.elim id fun hsame => ?_⟩
      rw [hsame]
      exact hknown
    · simp [Record.document]

/-- No address is accepted twice. -/
lemma nodup_urls_accepted (records : List Record) : ((accepted records).map (·.url)).Nodup := by
  induction records using List.reverseRecOn with
  | nil => exact List.nodup_nil
  | append_singleton records record ih =>
    rw [accepted_append_singleton, idAfter?]
    split
    · simpa using ih
    · rename_i hnew
      rw [← urls_accepted] at hnew
      rw [List.map_append, List.nodup_append_comm]
      exact List.nodup_cons.mpr ⟨hnew, ih⟩

/-- There are no more accepted documents than records. -/
lemma length_accepted_le (records : List Record) : (accepted records).length ≤ records.length := by
  refine (List.length_filterMap_le _ _).trans ?_
  rw [List.length_zip]
  exact Nat.min_le_left _ _

/-- The id of an accepted document is its place, counted from 1. -/
lemma id_of_mem_accepted {records : List Record} {document : Document}
    (h : document ∈ accepted records) :
    ∃ place < records.length, document.id = UInt32.ofNat (place + 1) := by
  induction records using List.reverseRecOn with
  | nil => simp [accepted, ids, idsAfter] at h
  | append_singleton records record ih =>
    rw [accepted_append_singleton, List.mem_append] at h
    rw [List.length_append, List.length_singleton]
    rcases h with hearlier | hlast
    · obtain ⟨place, hplace, hid⟩ := ih hearlier
      exact ⟨place, by omega, hid⟩
    · rw [idAfter?] at hlast
      split at hlast
      · simp at hlast
      · refine ⟨records.length, by omega, ?_⟩
        rw [List.mem_singleton.mp hlast]
        rfl

lemma id_lt_of_mem_accepted {records : List Record} {document : Document}
    (hbound : records.length + 1 < UInt32.size) (h : document ∈ accepted records) :
    document.id < UInt32.ofNat (records.length + 1) := by
  obtain ⟨place, hplace, hid⟩ := id_of_mem_accepted h
  rw [hid, UInt32.lt_iff_toNat_lt, UInt32.toNat_ofNat_of_lt' hbound,
    UInt32.toNat_ofNat_of_lt' (by omega)]
  omega

/-- Documents get their ids in ascending order. -/
theorem ascending_ids {records : List Record} (hbound : records.length + 1 < UInt32.size) :
    ((accepted records).map (·.id)).Pairwise (· < ·) := by
  induction records using List.reverseRecOn with
  | nil => simp [accepted, ids, idsAfter]
  | append_singleton records record ih =>
    rw [List.length_append, List.length_singleton] at hbound
    have hbefore : records.length + 1 < UInt32.size := by omega
    rw [accepted_append_singleton, List.map_append, List.pairwise_append]
    refine ⟨ih hbefore, ?_, ?_⟩
    · cases idAfter? records record <;> simp
    · intro earlier hearlier last hlast
      obtain ⟨document, hdocument, rfl⟩ := List.mem_map.mp hearlier
      rw [idAfter?] at hlast
      split at hlast
      · simp at hlast
      · rw [List.mem_singleton.mp hlast]
        exact id_lt_of_mem_accepted hbefore hdocument

/-- Accepted documents with one id are one document. -/
lemma eq_of_id_eq {records : List Record} (hbound : records.length + 1 < UInt32.size)
    {a b : Document} (ha : a ∈ accepted records) (hb : b ∈ accepted records)
    (h : a.id = b.id) : a = b := by
  have hnodup : ((accepted records).map (·.id)).Nodup :=
    (ascending_ids hbound).imp UInt32.ne_of_lt
  exact List.inj_on_of_nodup_map hnodup ha hb h

/-- **Which records are accepted.**  The accepted documents are the records whose address no earlier
record has, each under its place. -/
theorem mem_accepted {records : List Record} {document : Document} :
    document ∈ accepted records ↔
      ∃ earlier later, records = earlier ++ ⟨document.url, document.content⟩ :: later ∧
        document.url ∉ earlier.map (·.url) ∧
        document.id = UInt32.ofNat (earlier.length + 1) := by
  induction records using List.reverseRecOn with
  | nil => simp [accepted, ids, idsAfter]
  | append_singleton records record ih =>
    rw [accepted_append_singleton, List.mem_append, ih]
    constructor
    · rintro (⟨earlier, later, hrecords, hnew, hid⟩ | hlast)
      · exact ⟨earlier, later ++ [record], by rw [hrecords]; simp, hnew, hid⟩
      · rw [idAfter?] at hlast
        split at hlast
        · simp at hlast
        · rename_i hnew
          obtain rfl := List.mem_singleton.mp hlast
          exact ⟨records, [], rfl, hnew, rfl⟩
    · rintro ⟨earlier, later, hrecords, hnew, hid⟩
      rcases List.eq_nil_or_concat later with rfl | ⟨others, last, rfl⟩
      · obtain ⟨rfl, hrecord⟩ := List.append_inj' hrecords rfl
        obtain rfl := List.singleton_inj.mp hrecord
        refine Or.inr ?_
        rw [idAfter?, if_neg hnew]
        simp [Record.document, ← hid]
      · refine Or.inl ⟨earlier, others, ?_, hnew, hid⟩
        rw [List.concat_eq_append, ← List.cons_append, ← List.append_assoc] at hrecords
        exact (List.append_inj' hrecords rfl).1

end Retrieval.Corpus

import Mathlib.Data.List.Nodup
import Mathlib.Data.List.Perm.Subperm
import Mathlib.Tactic.Common
import Retrieval.Posting.Encoding
import Retrieval.Proofs.Posting.Recording

/-!
# What the file of a posting store lists

A file lists the documents of each term, each with its positions there.  Read as a run of records,
that is all a store knows beside its slots: the records are the documents of the terms
(`mem_records`).

A store lists its terms in ascending order, and the documents of each (`sorted_listing`).  A listing
in this form is determined by its records (`Sorted.ext`): any other way to list them repeats
something, lists a term without documents, or has another order.

No term and no document is listed needlessly, so a listing is no longer than what it lists
(`length_listing_le`, `length_listed_le`).  What a store refers to is what it lists and its slots
(`mem_referenced`).
-/

namespace Retrieval.Posting

/-- What a file lists, one record for each document of each term. -/
def recordsOf (listing : Listing) : List Store.Record :=
  listing.flatMap fun entry => entry.2.map fun found => (entry.1, found.1, found.2)

lemma recordsOf_cons (term : UInt32) (documents : List (UInt32 × List UInt32))
    (rest : Listing) :
    recordsOf ((term, documents) :: rest)
      = (documents.map fun found => (term, found.1, found.2)) ++ recordsOf rest := rfl

lemma mem_recordsOf {listing : Listing} {term doc : UInt32} {positions : List UInt32} :
    (term, doc, positions) ∈ recordsOf listing ↔
      ∃ documents, (term, documents) ∈ listing ∧ (doc, positions) ∈ documents := by
  rw [recordsOf, List.mem_flatMap]
  constructor
  · rintro ⟨⟨_, documents⟩, hentry, hrecord⟩
    obtain ⟨⟨_, _⟩, hfound, hpair⟩ := List.mem_map.mp hrecord
    cases hpair
    exact ⟨documents, hentry, hfound⟩
  · rintro ⟨documents, hentry, hfound⟩
    exact ⟨_, hentry, List.mem_map.mpr ⟨_, hfound, rfl⟩⟩

/-- No pair is listed twice if no term is, and no document within a term. -/
lemma nodup_recordsOf {listing : Listing} (hterms : (listing.map Prod.fst).Nodup)
    (hdocs : ∀ entry ∈ listing, (entry.2.map Prod.fst).Nodup) :
    (Store.pairs (recordsOf listing)).Nodup := by
  induction listing with
  | nil => exact List.nodup_nil
  | cons entry rest ih =>
    obtain ⟨term, documents⟩ := entry
    rw [List.map_cons, List.nodup_cons] at hterms
    rw [List.forall_mem_cons] at hdocs
    rw [recordsOf_cons, Store.pairs, List.map_append, List.map_map]
    refine List.nodup_append'.mpr ⟨?_, ih hterms.2 hdocs.2, ?_⟩
    · refine List.Nodup.of_map Prod.snd ?_
      rw [List.map_map]
      exact hdocs.1
    · rintro ⟨other, doc⟩ hfirst hlater
      obtain ⟨_, _, hpair⟩ := List.mem_map.mp hfirst
      cases hpair
      obtain ⟨positions, hrecord⟩ := Store.mem_pairs.mp hlater
      obtain ⟨others, hother, -⟩ := mem_recordsOf.mp hrecord
      exact hterms.1 (List.mem_map.mpr ⟨_, hother, rfl⟩)

/-! ## Sorted listings -/

/-- **The normal form of listings**: terms ascend, each has documents, and these ascend. -/
structure Sorted (listing : Listing) : Prop where
  terms : (listing.map Prod.fst).Pairwise (· < ·)
  listed : ∀ entry ∈ listing, entry.2 ≠ []
  documents : ∀ entry ∈ listing, (entry.2.map Prod.fst).Pairwise (· < ·)

namespace Sorted

variable {a b listing : Listing}

lemma nodup_recordsOf (h : Sorted listing) : (Store.pairs (recordsOf listing)).Nodup :=
  Posting.nodup_recordsOf (h.terms.imp UInt32.ne_of_lt) fun entry hentry =>
    (h.documents entry hentry).imp UInt32.ne_of_lt

/-- The records of a term are those of its only entry. -/
lemma mem_recordsOf_entry (h : Sorted listing) {term : UInt32}
    {documents : List (UInt32 × List UInt32)} (hentry : (term, documents) ∈ listing)
    {found : UInt32 × List UInt32} :
    (term, found.1, found.2) ∈ recordsOf listing ↔ found ∈ documents := by
  have hnodup : (listing.map Prod.fst).Nodup := h.terms.imp UInt32.ne_of_lt
  rw [mem_recordsOf]
  constructor
  · rintro ⟨others, hother, hfound⟩
    rw [← lookup_eq_some_iff_mem hnodup] at hentry hother
    rw [hentry, Option.some.injEq] at hother
    rwa [hother]
  · exact fun hfound => ⟨documents, hentry, hfound⟩

lemma mem_of_same_records (ha : Sorted a) (hb : Sorted b)
    (h : ∀ record, record ∈ recordsOf a ↔ record ∈ recordsOf b)
    {entry : UInt32 × List (UInt32 × List UInt32)} (hentry : entry ∈ a) : entry ∈ b := by
  obtain ⟨term, documents⟩ := entry
  obtain ⟨found, hfound⟩ := List.exists_mem_of_ne_nil _ (ha.listed _ hentry)
  have hrecord := (ha.mem_recordsOf_entry hentry).mpr hfound
  obtain ⟨others, hother, -⟩ := mem_recordsOf.mp ((h _).mp hrecord)
  have hsame : documents = others := by
    refine eq_of_ascending_keys (ha.documents _ hentry) (hb.documents _ hother) fun found => ?_
    rw [← ha.mem_recordsOf_entry hentry, ← hb.mem_recordsOf_entry hother, h]
  rwa [hsame]

/-- **Extensionality.**  A sorted listing is determined by what it lists. -/
theorem ext (ha : Sorted a) (hb : Sorted b)
    (h : ∀ record, record ∈ recordsOf a ↔ record ∈ recordsOf b) : a = b :=
  eq_of_ascending_keys ha.terms hb.terms fun _ =>
    ⟨ha.mem_of_same_records hb h, hb.mem_of_same_records ha fun record => (h record).symm⟩

end Sorted

namespace Store

/-! ## Terms and documents of a listing -/

lemma ascending_listing (store : Store) : (store.listing.map Prod.fst).Pairwise (· < ·) := by
  cases store with
  | bitset rows =>
    rw [listing, List.map_map]
    exact rows.rows.ascending
  | docSet rows =>
    rw [listing, List.map_map]
    exact rows.ascending
  | positional rows =>
    rw [listing, List.map_map]
    exact rows.ascending

lemma ascending_listed {store : Store} {entry : UInt32 × List (UInt32 × List UInt32)}
    (hentry : entry ∈ store.listing) : (entry.2.map Prod.fst).Pairwise (· < ·) := by
  have hdocs : ∀ docs : IdSet,
      ((docs.toList.map fun doc => (doc, ([] : List UInt32))).map Prod.fst).Pairwise (· < ·) := by
    intro docs
    simpa [Function.comp_def] using docs.ascending
  cases store with
  | bitset rows =>
    obtain ⟨row, -, rfl⟩ := List.mem_map.mp hentry
    exact hdocs _
  | docSet rows =>
    obtain ⟨row, -, rfl⟩ := List.mem_map.mp hentry
    exact hdocs _
  | positional rows =>
    obtain ⟨row, -, rfl⟩ := List.mem_map.mp hentry
    exact row.2.ascending

/-- A canonical store lists no term without documents. -/
lemma listed_ne_nil {store : Store} (h : store.Canonical)
    {entry : UInt32 × List (UInt32 × List UInt32)} (hentry : entry ∈ store.listing) :
    entry.2 ≠ [] := by
  cases store with
  | bitset rows =>
    obtain ⟨row, hrow, rfl⟩ := List.mem_map.mp hentry
    obtain ⟨doc, hdoc⟩ := Bitset.Canonical.docsFor_nonempty h (IdMap.get?_eq_some_iff.mpr hrow)
    exact List.ne_nil_of_mem (List.mem_map.mpr ⟨doc, hdoc, rfl⟩)
  | docSet rows =>
    obtain ⟨row, hrow, rfl⟩ := List.mem_map.mp hentry
    obtain ⟨doc, hdoc⟩ := h (IdMap.get?_eq_some_iff.mpr hrow)
    exact List.ne_nil_of_mem (List.mem_map.mpr ⟨doc, hdoc, rfl⟩)
  | positional rows =>
    obtain ⟨row, hrow, rfl⟩ := List.mem_map.mp hentry
    obtain ⟨doc, hdoc⟩ := h (IdMap.get?_eq_some_iff.mpr hrow)
    obtain ⟨positions, hpositions⟩ := Option.isSome_iff_exists.mp (IdMap.mem_keys.mp hdoc)
    exact List.ne_nil_of_mem (IdMap.get?_eq_some_iff.mp hpositions)

/-- **What a canonical store lists is sorted.** -/
theorem sorted_listing {store : Store} (h : store.Canonical) : Sorted store.listing :=
  ⟨store.ascending_listing, fun _ => listed_ne_nil h, fun _ => ascending_listed⟩

/-! ## Records -/

/-- The records that the file of a store lists. -/
def records (store : Store) : List Record :=
  recordsOf store.listing

/-- Entries under a map of the values are the entries of the map. -/
lemma mem_map_entries {α β : Type} {map : IdMap α} {f : UInt32 × α → β} {id : UInt32} {image : β} :
    (id, image) ∈ map.entries.map (fun entry => (entry.1, f entry)) ↔
      ∃ value, map.get? id = some value ∧ f (id, value) = image := by
  rw [List.mem_map]
  constructor
  · rintro ⟨⟨_, value⟩, hentry, hpair⟩
    cases hpair
    exact ⟨value, IdMap.get?_eq_some_iff.mpr hentry, rfl⟩
  · rintro ⟨value, hvalue, rfl⟩
    exact ⟨(id, value), IdMap.get?_eq_some_iff.mp hvalue, rfl⟩

/-- A layout without positions lists none with a document. -/
lemma mem_listed_of_set {docs : IdSet} {doc : UInt32} {positions : List UInt32} :
    (doc, positions) ∈ docs.toList.map (fun doc => (doc, ([] : List UInt32))) ↔
      doc ∈ docs ∧ [] = positions := by
  rw [List.mem_map]
  constructor
  · rintro ⟨_, hdoc, hpair⟩
    cases hpair
    exact ⟨hdoc, rfl⟩
  · rintro ⟨hdoc, rfl⟩
    exact ⟨doc, hdoc, rfl⟩

section Layouts

variable {term doc : UInt32} {positions : List UInt32}

lemma mem_records_bitset {rows : Bitset} :
    (term, doc, positions) ∈ (bitset rows).records ↔
      doc ∈ rows.docsFor term ∧ [] = positions := by
  have hrow : doc ∈ rows.docsFor term → ∃ row, rows.rows.get? term = some row := by
    intro hdoc
    obtain ⟨slot, hbit, -⟩ := Bitset.mem_docsFor.mp hdoc
    cases hrow : rows.rows.get? term with
    | none => simp [Bitset.bits, hrow] at hbit
    | some row => exact ⟨row, rfl⟩
  rw [records, mem_recordsOf]
  simp only [listing, mem_map_entries]
  constructor
  · rintro ⟨_, ⟨_, -, rfl⟩, hfound⟩
    exact mem_listed_of_set.mp hfound
  · rintro ⟨hdoc, hnone⟩
    obtain ⟨row, hrow⟩ := hrow hdoc
    exact ⟨_, ⟨row, hrow, rfl⟩, mem_listed_of_set.mpr ⟨hdoc, hnone⟩⟩

lemma mem_records_docSet {rows : DocSets} :
    (term, doc, positions) ∈ (docSet rows).records ↔
      doc ∈ rows.docsFor term ∧ [] = positions := by
  rw [records, mem_recordsOf, DocSets.docsFor]
  simp only [listing, mem_map_entries]
  constructor
  · rintro ⟨_, ⟨docs, hrow, rfl⟩, hfound⟩
    rw [hrow]
    exact mem_listed_of_set.mp hfound
  · rintro ⟨hdoc, hnone⟩
    cases hrow : rows.get? term with
    | none =>
      rw [hrow] at hdoc
      exact absurd hdoc (IdSet.not_mem_empty doc)
    | some docs =>
      rw [hrow] at hdoc
      exact ⟨_, ⟨docs, rfl, rfl⟩, mem_listed_of_set.mpr ⟨hdoc, hnone⟩⟩

lemma mem_records_positional {rows : Positions} :
    (term, doc, positions) ∈ (positional rows).records ↔
      rows.positions? term doc = some positions := by
  rw [records, mem_recordsOf, Positions.positions?, Option.bind_eq_some_iff]
  simp only [listing, mem_map_entries]
  constructor
  · rintro ⟨_, ⟨row, hrow, rfl⟩, hfound⟩
    exact ⟨row, hrow, IdMap.get?_eq_some_iff.mpr hfound⟩
  · rintro ⟨row, hrow, hfound⟩
    exact ⟨_, ⟨row, hrow, rfl⟩, IdMap.get?_eq_some_iff.mp hfound⟩

/-- **What a store lists are its documents**, each with its positions if the layout keeps them. -/
theorem mem_records {store : Store} :
    (term, doc, positions) ∈ store.records ↔
      doc ∈ store.docsFor term ∧ (store.positions? term doc).getD [] = positions := by
  cases store with
  | bitset rows => exact mem_records_bitset
  | docSet rows => exact mem_records_docSet
  | positional rows =>
    rw [mem_records_positional]
    change _ ↔ doc ∈ rows.docsFor term ∧ (rows.positions? term doc).getD [] = positions
    rw [Positions.mem_docsFor]
    cases rows.positions? term doc <;> simp

end Layouts

lemma mem_pairs_records {store : Store} {term doc : UInt32} :
    (term, doc) ∈ pairs store.records ↔ doc ∈ store.docsFor term := by
  simp [mem_pairs, mem_records]

/-- A document is listed with its term. -/
lemma mem_docsFor_of_listed {store : Store} {entry : UInt32 × List (UInt32 × List UInt32)}
    (hentry : entry ∈ store.listing) {found : UInt32 × List UInt32} (hfound : found ∈ entry.2) :
    found.1 ∈ store.docsFor entry.1 ∧
      (store.positions? entry.1 found.1).getD [] = found.2 :=
  mem_records.mp (mem_recordsOf.mpr ⟨entry.2, hentry, hfound⟩)

/-- No pair comes twice in the records of a store. -/
lemma nodup_records {store : Store} (h : store.Canonical) : (pairs store.records).Nodup :=
  (sorted_listing h).nodup_recordsOf

/-- The listed terms are those that a store counts. -/
lemma map_fst_listing (store : Store) : store.listing.map Prod.fst = store.terms.toList := by
  cases store with
  | bitset rows => exact List.map_map
  | docSet rows => exact List.map_map
  | positional rows => exact List.map_map

/-- The terms of a canonical store are those that have documents. -/
theorem mem_terms {store : Store} (h : store.Canonical) {term : UInt32} :
    term ∈ store.terms ↔ ∃ doc, doc ∈ store.docsFor term := by
  rw [IdSet.mem_def, ← map_fst_listing, List.mem_map]
  constructor
  · rintro ⟨entry, hentry, rfl⟩
    obtain ⟨found, hfound⟩ := List.exists_mem_of_ne_nil _ (listed_ne_nil h hentry)
    exact ⟨found.1, (mem_docsFor_of_listed hentry hfound).1⟩
  · rintro ⟨doc, hdoc⟩
    obtain ⟨documents, hentry, -⟩ := mem_recordsOf.mp (mem_records.mpr ⟨hdoc, rfl⟩)
    exact ⟨_, hentry, rfl⟩

/-! ## Counts -/

/-- No more terms are listed than there are terms with documents. -/
theorem length_listing_le {store : Store} (h : store.Canonical) {terms : List UInt32}
    (hterms : ∀ {term doc}, doc ∈ store.docsFor term → term ∈ terms) :
    store.listing.length ≤ terms.length := by
  have hsubset : store.listing.map Prod.fst ⊆ terms := by
    intro term hterm
    obtain ⟨entry, hentry, rfl⟩ := List.mem_map.mp hterm
    obtain ⟨found, hfound⟩ := List.exists_mem_of_ne_nil _ (listed_ne_nil h hentry)
    exact hterms (mem_docsFor_of_listed hentry hfound).1
  have hnodup : (store.listing.map Prod.fst).Nodup :=
    store.ascending_listing.imp UInt32.ne_of_lt
  have hlength := (hnodup.subperm hsubset).length_le
  rwa [List.length_map] at hlength

/-- No more documents are listed for a term than there are documents. -/
theorem length_listed_le {store : Store} {documents : List UInt32}
    (hdocs : ∀ {term doc}, doc ∈ store.docsFor term → doc ∈ documents)
    {entry : UInt32 × List (UInt32 × List UInt32)} (hentry : entry ∈ store.listing) :
    entry.2.length ≤ documents.length := by
  have hsubset : entry.2.map Prod.fst ⊆ documents := by
    intro doc hdoc
    obtain ⟨found, hfound, rfl⟩ := List.mem_map.mp hdoc
    exact hdocs (mem_docsFor_of_listed hentry hfound).1
  have hnodup : (entry.2.map Prod.fst).Nodup := (ascending_listed hentry).imp UInt32.ne_of_lt
  have hlength := (hnodup.subperm hsubset).length_le
  rwa [List.length_map] at hlength

/-! ## The store that is listed -/

/-- The documents of bit rows are registered. -/
lemma mem_registered {store : Store} (hbitset : store.representation = .bitset) {term doc : UInt32}
    (hdoc : doc ∈ store.docsFor term) : doc ∈ store.registered := by
  cases store with
  | bitset rows =>
    obtain ⟨slot, -, hslot⟩ := Bitset.mem_docsFor.mp hdoc
    exact List.mem_of_getElem? hslot
  | docSet rows => cases hbitset
  | positional rows => cases hbitset

lemma positions?_eq_none {store : Store} (h : store.representation ≠ .positional)
    (term doc : UInt32) : store.positions? term doc = none := by
  cases store with
  | bitset rows => rfl
  | docSet rows => rfl
  | positional rows => exact absurd rfl h

lemma registered_eq_nil {store : Store} (h : store.representation ≠ .bitset) :
    store.registered = [] := by
  cases store with
  | bitset rows => exact absurd rfl h
  | docSet rows => rfl
  | positional rows => rfl

/-- **Layouts without positions list alike** if their terms have the same documents. -/
theorem listing_eq_of_docsFor {a b : Store} (ha : a.Canonical) (hb : b.Canonical)
    (hpresence : a.representation ≠ .positional) (hpresence' : b.representation ≠ .positional)
    (hdocs : ∀ term doc, doc ∈ a.docsFor term ↔ doc ∈ b.docsFor term) : a.listing = b.listing := by
  refine Sorted.ext (sorted_listing ha) (sorted_listing hb) ?_
  rintro ⟨term, doc, positions⟩
  rw [← records, ← records, mem_records, mem_records, hdocs, positions?_eq_none hpresence,
    positions?_eq_none hpresence']

/-- The documents of all entries are those of any term. -/
lemma mem_ofList_flatMap {α : Type} (map : IdMap α) (docs : α → IdSet) {doc : UInt32} :
    doc ∈ IdSet.ofList (map.entries.flatMap fun entry => (docs entry.2).toList) ↔
      ∃ term, doc ∈ ((map.get? term).map docs).getD .empty := by
  rw [IdSet.mem_ofList, List.mem_flatMap]
  constructor
  · rintro ⟨⟨term, value⟩, hentry, hdoc⟩
    refine ⟨term, ?_⟩
    rw [IdMap.get?_eq_some_iff.mpr hentry]
    exact hdoc
  · rintro ⟨term, hdoc⟩
    cases hvalue : map.get? term with
    | none =>
      rw [hvalue] at hdoc
      exact absurd hdoc (IdSet.not_mem_empty doc)
    | some value =>
      rw [hvalue] at hdoc
      exact ⟨(term, value), IdMap.get?_eq_some_iff.mp hvalue, hdoc⟩

/-- **What a store refers to** are the documents of its terms and its slots. -/
theorem mem_referenced {store : Store} {doc : UInt32} :
    doc ∈ store.referenced ↔ (∃ term, doc ∈ store.docsFor term) ∨
      (store.representation = .bitset ∧ doc ∈ store.registered) := by
  cases store with
  | bitset rows =>
    refine IdSet.mem_ofList.trans ⟨fun hslot => Or.inr ⟨rfl, hslot⟩, fun hdoc => ?_⟩
    rcases hdoc with ⟨term, hterm⟩ | ⟨-, hslot⟩
    · exact mem_registered rfl hterm
    · exact hslot
  | docSet rows =>
    refine (mem_ofList_flatMap rows fun docs => docs).trans ?_
    simp [docsFor, DocSets.docsFor, representation]
  | positional rows =>
    refine (mem_ofList_flatMap rows IdMap.keys).trans ?_
    simp [docsFor, Positions.docsFor, representation]

end Store

end Retrieval.Posting

import Mathlib.Tactic.Common
import Retrieval.Proofs.Posting.Format
import Retrieval.Proofs.Posting.Listing

/-!
# Listing stores and recording listings

Reading a file registers the documents that are given and records what the file lists.  Listing a
store and recording a listing undo each other.  A store lists a listing again if that is sorted and
has no positions that the layout drops (`listing_ofRecords`), and recording what a canonical store
lists gives the store again (`ofRecords_records`).  Only the slots of bit rows are not told by a
listing, so they have to be registered.
-/

namespace Retrieval.Posting

/-- Whether some entry for the term lists the document. -/
def Lists (listing : Listing) (term doc : UInt32) : Prop :=
  ∃ entry ∈ listing, entry.1 = term ∧ ∃ found ∈ entry.2, found.1 = doc

instance (listing : Listing) (term doc : UInt32) : Decidable (Lists listing term doc) := by
  unfold Lists
  infer_instance

lemma lists_iff_pairs {listing : Listing} {term doc : UInt32} :
    Lists listing term doc ↔ (term, doc) ∈ Store.pairs (recordsOf listing) := by
  rw [Store.mem_pairs]
  constructor
  · rintro ⟨entry, hentry, rfl, found, hfound, rfl⟩
    exact ⟨found.2, mem_recordsOf.mpr ⟨entry.2, hentry, hfound⟩⟩
  · rintro ⟨positions, hrecord⟩
    obtain ⟨documents, hentry, hfound⟩ := mem_recordsOf.mp hrecord
    exact ⟨_, hentry, rfl, _, hfound, rfl⟩

namespace Store

variable {representation : Representation} {documents : List UInt32} {listing : Listing}
  {term doc : UInt32}

/-! ## Recording what is listed -/

/-- A pair that is listed once has the positions that are listed with it. -/
lemma getD_positions?_ofRecords (hadmits : Admits representation listing)
    (hnodup : (pairs (recordsOf listing)).Nodup)
    {positions : List UInt32} (hmem : (term, doc, positions) ∈ recordsOf listing) :
    ((ofRecords representation documents (recordsOf listing)).positions? term doc).getD []
      = positions := by
  by_cases hpositional : representation = .positional
  · subst hpositional
    rw [positions?_ofRecords, if_pos (mem_pairs.mpr ⟨_, hmem⟩), recordedPositions_of_mem hnodup hmem]
    rfl
  · obtain ⟨entries, hentry, hfound⟩ := mem_recordsOf.mp hmem
    rw [positions?_eq_none (by simpa using hpositional)]
    exact (hadmits hpositional _ hentry _ hfound).symm

/-- **A sorted listing is listed again**, if the layout keeps all of it. -/
theorem listing_ofRecords (hsorted : Sorted listing) (hadmits : Admits representation listing)
    (documents : List UInt32) :
    (ofRecords representation documents (recordsOf listing)).listing = listing := by
  have hpositions : ∀ {term doc positions}, (term, doc, positions) ∈ recordsOf listing →
      ((ofRecords representation documents (recordsOf listing)).positions? term doc).getD []
        = positions :=
    getD_positions?_ofRecords hadmits hsorted.nodup_recordsOf
  refine Sorted.ext (sorted_listing (canonical_ofRecords _ _ _)) hsorted ?_
  rintro ⟨term, doc, positions⟩
  refine mem_records.trans ?_
  rw [mem_docsFor_ofRecords, mem_pairs]
  constructor
  · rintro ⟨⟨listed, hrecord⟩, rfl⟩
    rwa [hpositions hrecord]
  · exact fun hrecord => ⟨⟨positions, hrecord⟩, hpositions hrecord⟩

/-! ## Listing and recording again -/

/-- What a store lists are the documents of its terms. -/
lemma lists_listing {store : Store} : Lists store.listing term doc ↔ doc ∈ store.docsFor term :=
  lists_iff_pairs.trans mem_pairs_records

/-- A store is listed without positions unless its layout keeps them. -/
lemma admits_listing (store : Store) : Admits store.representation store.listing := by
  intro hstore entry hentry found hfound
  obtain ⟨-, hpositions⟩ := mem_docsFor_of_listed hentry hfound
  rw [← hpositions, positions?_eq_none hstore]
  rfl

/-- **Extensionality.**  A canonical store is determined by its layout, its slots and what it
lists. -/
theorem Canonical.ext_listing {a b : Store} (ha : a.Canonical) (hb : b.Canonical)
    (hrepresentation : a.representation = b.representation)
    (hregistered : a.registered = b.registered) (hlisting : a.listing = b.listing) : a = b := by
  have hdocs : ∀ term doc, doc ∈ a.docsFor term ↔ doc ∈ b.docsFor term := fun term doc => by
    rw [← lists_listing, hlisting, lists_listing]
  refine ha.ext hb hrepresentation hregistered (fun term => IdSet.ext_mem (hdocs term)) ?_
  intro term doc
  by_cases hpositional : a.representation = .positional
  · have hsome := hdocs term doc
    rw [mem_docsFor_iff_positions? hpositional,
      mem_docsFor_iff_positions? (hrepresentation.symm.trans hpositional)] at hsome
    cases hheld : a.positions? term doc with
    | none =>
      rw [hheld] at hsome
      exact (Option.not_isSome_iff_eq_none.mp fun h => absurd (hsome.mpr h) (by simp)).symm
    | some positions =>
      have hrecord : (term, doc, positions) ∈ a.records := by
        rw [mem_records, mem_docsFor_iff_positions? hpositional, hheld]
        exact ⟨rfl, rfl⟩
      rw [records, hlisting, ← records, mem_records] at hrecord
      obtain ⟨held, hheld'⟩ := Option.isSome_iff_exists.mp (hsome.mp (by rw [hheld]; rfl))
      rw [hheld', ← hrecord.2, hheld']
      rfl
  · rw [positions?_eq_none hpositional, positions?_eq_none (hrepresentation ▸ hpositional)]

/-- **Recording what a store lists gives that store**, if bit rows are given the documents that they
have for slots, in whatever order. -/
theorem ofRecords_records {store : Store} (h : store.Canonical) {documents : List UInt32}
    (hregistered : store.representation = .bitset →
      ∀ doc, doc ∈ documents ↔ doc ∈ store.registered) :
    ofRecords store.representation documents store.records = store := by
  have hlisted := canonical_ofRecords store.representation documents store.records
  refine hlisted.ext_listing h (representation_ofRecords _ _ _) ?_
    (listing_ofRecords (sorted_listing h) store.admits_listing documents)
  by_cases hbitset : store.representation = .bitset
  · refine eq_of_ascending hlisted.ascending_registered h.ascending_registered fun doc => ?_
    rw [hbitset, mem_registered_ofRecords, hregistered hbitset, or_iff_left_iff_imp]
    rintro ⟨term, hpair⟩
    exact mem_registered hbitset (mem_pairs_records.mp hpair)
  · rw [registered_eq_nil hbitset, registered_eq_nil (by simpa using hbitset)]

end Store

end Retrieval.Posting

import Mathlib.Tactic.Common
import Retrieval.Error
import Retrieval.Proofs.Posting.Decoding

/-!
# Which octets are posting files

The octets of a posting file are those of a listing, with nothing left over, and layouts without
positions want every pair without positions (`IsFile`).  Exactly these are read, and all others are
a decode error: no count in front of its records is ever thought implausible.

Reading is not writing backwards.  A file may list terms and documents in any order, list them again
and list terms without documents; all of this is read, and the entries of a pair are joined in the
order of the file.  The store is written in one form only, so a file comes back octet for octet
exactly if it is in that form (`encode_of_decode`).
-/

namespace Retrieval.Posting

/-- Whether octets are the file of a listing that the layout admits. -/
def IsFile (representation : Representation) (octets : List UInt8) : Prop :=
  ∃ listing, Framable listing ∧ Admits representation listing ∧ fileOf listing = octets

namespace Store

variable {representation : Representation} {documents : List UInt32} {octets : List UInt8}
  {store : Store} {listing : Listing}

lemma exists_decode_iff :
    (∃ store, decode representation documents octets = .ok store) ↔
      IsFile representation octets := by
  simp only [decode_eq_ok, IsFile]
  constructor
  · rintro ⟨store, listing, hframable, hadmits, hfile, -⟩
    exact ⟨listing, hframable, hadmits, hfile⟩
  · rintro ⟨listing, hframable, hadmits, hfile⟩
    exact ⟨_, listing, hframable, hadmits, hfile, rfl⟩

/-- What was read is what the only listing of the file describes. -/
lemma eq_ofRecords_of_decode (h : decode representation documents octets = .ok store)
    (hframable : Framable listing) (hfile : fileOf listing = octets) :
    Admits representation listing ∧
      ofRecords representation documents (recordsOf listing) = store := by
  obtain ⟨listed, hframable', hadmits, hfile', hstore⟩ := decode_eq_ok.mp h
  obtain rfl := fileOf_inj hframable' hframable (hfile'.trans hfile.symm)
  exact ⟨hadmits, hstore⟩

/-- **A file is written again as it was** exactly if it lists in the normal form. -/
theorem encode_of_decode (h : decode representation documents octets = .ok store)
    (hframable : Framable listing) (hfile : fileOf listing = octets) :
    store.encode = .ok octets ↔ Sorted listing := by
  obtain ⟨hadmits, rfl⟩ := eq_ofRecords_of_decode h hframable hfile
  rw [encode_eq_ok]
  constructor
  · rintro ⟨hframable', hfile'⟩
    rw [← fileOf_inj hframable' hframable (hfile'.trans hfile.symm)]
    exact sorted_listing (canonical_ofRecords _ _ _)
  · intro hsorted
    rw [listing_ofRecords hsorted hadmits]
    exact ⟨hframable, hfile⟩

/-- **Posting octets are read exactly if they are a posting file**, and are a decode error
otherwise.  The store that is read contains the pairs that some entry lists, with the positions of
all its entries in their order, and is written again as the same octets exactly if the file lists in
ascending order, nothing twice and no term without documents. -/
theorem posting_octets_are_read_iff_formatted (representation : Representation)
    (documents : List UInt32) (octets : List UInt8) :
    ((∃ store, decode representation documents octets = .ok store) ↔
      IsFile representation octets) ∧
    ((∃ reason, decode representation documents octets = .error reason ∧
      (Error.postings reason).kind = .decode) ↔ ¬ IsFile representation octets) ∧
    ∀ {store listing}, decode representation documents octets = .ok store →
      Framable listing → fileOf listing = octets →
      (∀ term doc, store.contains term doc = true ↔ Lists listing term doc) ∧
      (representation = .positional → ∀ term doc, store.positions? term doc =
        if Lists listing term doc then some (recordedPositions (recordsOf listing) term doc)
        else none) ∧
      (store.encode = .ok octets ↔ Sorted listing) := by
  refine ⟨exists_decode_iff, ?_, ?_⟩
  · rw [← @exists_decode_iff representation documents octets, ← exists_eq_error_iff]
    exact exists_congr fun reason => and_iff_left rfl
  · intro store listing hread hframable hfile
    obtain ⟨-, hstore⟩ := eq_ofRecords_of_decode hread hframable hfile
    refine ⟨fun term doc => ?_, fun hpositional term doc => ?_,
      encode_of_decode hread hframable hfile⟩
    · rw [contains_iff (canonical_of_decode hread), ← hstore, mem_docsFor_ofRecords,
        lists_iff_pairs]
    · subst hpositional
      rw [← hstore, positions?_ofRecords]
      simp only [lists_iff_pairs]

/-- Entries of a term that comes twice are joined, and its documents are put in order. -/
example : (decode .positional [] (fileOf [(7, [(2, [1])]), (7, [(1, []), (2, [4])])])).toOption.map
    Store.listing = some [(7, [(1, []), (2, [1, 4])])] := by
  decide +kernel

end Store

end Retrieval.Posting

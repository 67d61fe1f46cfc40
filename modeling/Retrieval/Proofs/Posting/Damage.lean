import Mathlib.Tactic.Common
import Retrieval.Proofs.Frame.Damage
import Retrieval.Proofs.Posting.Decoding

/-!
# Damaged posting files

No posting file continues another one, since its counts tell where it ends (`fileOf_append_inj`).
The layout that a file is read in only decides whether positions are admitted, and the documents
that are registered first do not matter to the octets at all.  So if a file is read in some layout,
a damaged one is read in none (`decode_of_damaged`).
-/

namespace Retrieval.Posting.Store

open Retrieval.Frame (Damaged)

/-- **A damaged file is refused in every layout**, if the file was read in some layout. -/
theorem decode_of_damaged {representation : Representation} {documents : List UInt32}
    {octets found : List UInt8} {store : Store}
    (h : decode representation documents octets = .ok store) (hfound : Damaged octets found)
    (other : Representation) (others : List UInt32) :
    ∃ reason, decode other others found = .error reason := by
  cases hread : decode other others found with
  | error reason => exact ⟨reason, rfl⟩
  | ok later =>
    obtain ⟨listing, hframable, -, rfl, -⟩ := decode_eq_ok.mp h
    obtain ⟨listed, hframable', -, rfl, -⟩ := decode_eq_ok.mp hread
    obtain ⟨more, hmore, hlonger | hlonger⟩ := hfound
    · rw [← List.append_nil (fileOf listing)] at hlonger
      exact absurd (fileOf_append_inj hframable hframable' hlonger).2.symm hmore
    · rw [← List.append_nil (fileOf listed)] at hlonger
      exact absurd (fileOf_append_inj hframable' hframable hlonger).2.symm hmore

end Retrieval.Posting.Store

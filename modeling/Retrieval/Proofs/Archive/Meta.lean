import Mathlib.Tactic.Common
import Retrieval.Archive.Meta
import Retrieval.Proofs.Json.Complete
import Retrieval.Proofs.Json.Records
import Retrieval.Proofs.Utf8

/-!
# Metadata is read back

Metadata is written as a record of six fields and read from the members of an object by their
names.  Each field is a number or a string that is its own value, so what is read is what was
written (`read_encode`), for every date and every language.  Only the version is not free: artifacts
of another version are refused.

The record ends with its closing mark, so no part from the start of the file is a record, and a file
with some of its last octets missing is refused (`read_of_truncated`).
-/

namespace Retrieval.Archive.Meta

/-- The members that the fields are written for. -/
def members (info : Meta) : List (Option String × Json) := [
  (some "num_docs", .number (Json.whole info.numDocs.toNat)),
  (some "num_terms", .number (Json.whole info.numTerms.toNat)),
  (some "representation", .string (some info.representation.name)),
  (some "created_at", .string (some info.createdAt)),
  (some "version", .number (Json.whole info.version.toNat)),
  (some "language", .string (some info.language))]

lemma written_fields (info : Meta) : Json.Written info.fields info.members := by
  have hstring : ∀ value : String,
      Json.Scalar (Json.quote value.toList) (.string (some value)) := by
    intro value
    have h := Json.Scalar.string value.toList
    rwa [String.ofList_toList] at h
  refine .cons ⟨rfl, .number _⟩ (.cons ⟨rfl, .number _⟩ (.cons ⟨rfl, hstring _⟩
    (.cons ⟨rfl, hstring _⟩ (.cons ⟨rfl, .number _⟩ (.cons ⟨rfl, hstring _⟩ .nil)))))

lemma representation?_name (representation : Posting.Representation) :
    representation? (.string (some representation.name)) = some representation := by
  cases representation <;> decide

/-- The fields are found by their names. -/
lemma ofJson?_members (info : Meta) : ofJson? (.object info.members) = some info := by
  simp [ofJson?, members, Json.fields?, Json.member?, Json.word?_whole, representation?_name,
    Json.text?]

lemma parse?_text (info : Meta) : (Json.parse? info.text >>= ofJson?) = some info := by
  have hparse : Json.parse? info.text = some (.object info.members) :=
    Json.parse?_record (by simp [fields]) info.written_fields
  rw [hparse]
  exact info.ofJson?_members

/-- **Metadata is read back as it was written.** -/
theorem read_encode {info : Meta} (h : info.version = formatVersion) :
    read (Utf8.encode info.text) = .ok info := by
  rw [read, Utf8.decode_encode]
  simp only [parse?_text, if_pos h]

/-- Metadata of another version is refused for it. -/
lemma read_encode_of_version_ne {info : Meta} (h : info.version ≠ formatVersion) :
    read (Utf8.encode info.text) = .error (.version info.version) := by
  rw [read, Utf8.decode_encode]
  simp only [parse?_text, if_neg h]

/-- Metadata is only read if it is of this version. -/
lemma version_of_read {octets : List UInt8} {info : Meta} (h : read octets = .ok info) :
    info.version = formatVersion := by
  rw [read] at h
  split at h
  · cases h
  · split at h
    · cases h
    · split at h
      · rename_i hversion
        cases h
        exact hversion
      · cases h

/-! ## Missing octets -/

/-- The text of the file is an object from its first character to its last. -/
lemma exists_text (info : Meta) : ∃ inner, info.text = '{' :: inner ++ ['\x7d'] := by
  let lines := info.fields.map fun f => Json.field f.1 f.2
  refine ⟨'\n' :: ([',', '\n'].intercalate lines ++ ['\n']), ?_⟩
  simp [text, Json.record, lines]

/-- A part from the start of the text is no value. -/
lemma parse?_of_truncated {info : Meta} {part rest : List Char} (h : info.text = part ++ rest)
    (hrest : rest ≠ []) : Json.parse? part = none := by
  obtain ⟨inner, hinner⟩ := info.exists_text
  cases hparse : Json.parse? part with
  | none => rfl
  | some value =>
    exfalso
    have hwhole : ∃ other, Json.parse? (part ++ rest) = some other := by
      obtain ⟨other, hother, -⟩ := Option.bind_eq_some_iff.mp info.parse?_text
      exact ⟨other, h ▸ hother⟩
    obtain ⟨other, hother⟩ := hwhole
    cases part with
    | nil => cases hparse
    | cons first part =>
      have hsame := hinner.symm.trans h
      rw [List.cons_append, List.cons_append, List.cons.injEq] at hsame
      obtain ⟨rfl, hsame⟩ := hsame
      have hblank := Json.isBlank_of_parse? hparse hother
      -- the closing mark of the whole text is not blank
      rw [← List.dropLast_concat_getLast hrest, ← List.append_assoc] at hsame
      obtain ⟨-, hlast⟩ := List.append_inj' hsame rfl
      have hclosing := hblank _ (List.getLast_mem hrest)
      rw [← List.head_eq_of_cons_eq hlast] at hclosing
      revert hclosing
      decide

/-- **A file with some of its last octets missing is refused.** -/
theorem read_of_truncated {info : Meta} {found more : List UInt8}
    (h : Utf8.encode info.text = found ++ more) (hmore : more ≠ []) :
    ∃ reason, read found = .error reason := by
  rw [read]
  cases hpart : Utf8.decode found with
  | error reason => exact ⟨_, rfl⟩
  | ok part =>
    have hwhole : Utf8.decode (found ++ more) = .ok info.text := h ▸ Utf8.decode_encode info.text
    obtain ⟨rest, htext, hrest⟩ := Utf8.decode_append hpart hwhole
    have hparse := parse?_of_truncated htext (mt hrest hmore)
    exact ⟨.notRecord, by simp [hparse]⟩

end Retrieval.Archive.Meta

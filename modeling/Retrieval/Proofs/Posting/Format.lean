import Mathlib.Tactic.Common
import Retrieval.Posting.Encoding
import Retrieval.Proofs.Frame.Reading

/-!
# The format of posting files

A posting file is three times the same thing: a count, and so many records behind it (`counted`).
The file counts terms, a term is its id with its counted documents, and a document is its id with
its counted positions.  `fileOf` writes a listing in this way, without regard to any store, and
`encode_eq_ok` says that a store is written as the file of what it lists, unless a count of it does
not fit a frame.

A count tells where its records end.  So octets that begin with a file tell the whole listing and
where the file ends (`fileOf_append_inj`): no file continues another one, and no octets are the
files of two listings.
-/

namespace Retrieval.Posting

open Retrieval.Frame (LengthError)

/-! ## Frames -/

/-- The frames of records one behind the other, with their count in front. -/
def counted {α : Type} (frames : α → List UInt8) (items : List α) : List UInt8 :=
  Frame.word (UInt32.ofNat items.length) ++ items.flatMap frames

/-- The frames of a document: its id and its counted positions. -/
def documentFrames (found : UInt32 × List UInt32) : List UInt8 :=
  Frame.word found.1 ++ counted Frame.word found.2

/-- The frames of a term: its id and its counted documents. -/
def termFrames (entry : UInt32 × List (UInt32 × List UInt32)) : List UInt8 :=
  Frame.word entry.1 ++ counted documentFrames entry.2

/-- The file of a listing: its counted terms. -/
def fileOf (listing : Listing) : List UInt8 :=
  counted termFrames listing

/-- Whether all that a file counts can be counted with 32 bits: the terms, the documents of each
term, and the positions in each document. -/
def Framable (listing : Listing) : Prop :=
  listing.length < UInt32.size ∧ ∀ entry ∈ listing, entry.2.length < UInt32.size ∧
    ∀ found ∈ entry.2, found.2.length < UInt32.size

instance (listing : Listing) : Decidable (Framable listing) := by
  unfold Framable
  infer_instance

/-- Whether a layout may read a listing: positions are for positional postings only. -/
def Admits (representation : Representation) (listing : Listing) : Prop :=
  representation ≠ .positional → ∀ entry ∈ listing, ∀ found ∈ entry.2, found.2 = []

/-! ## What a store is written as -/

namespace Store

lemma encodeDocuments_eq_ok {documents : List (UInt32 × List UInt32)} {octets : List UInt8} :
    encodeDocuments documents = .ok octets ↔
      (∀ found ∈ documents, found.2.length < UInt32.size) ∧
        documents.flatMap documentFrames = octets := by
  induction documents generalizing octets with
  | nil => simp [encodeDocuments]
  | cons found rest ih =>
    obtain ⟨doc, positions⟩ := found
    simp only [encodeDocuments, bind_eq_ok, Frame.count_eq_ok, ih, List.forall_mem_cons,
      List.flatMap_cons, documentFrames, counted, List.append_assoc, pure, Except.pure,
      Except.ok.injEq]
    constructor
    · rintro ⟨head, ⟨hlength, rfl⟩, tail, ⟨hrest, rfl⟩, hoctets⟩
      exact ⟨⟨hlength, hrest⟩, hoctets⟩
    · rintro ⟨⟨hlength, hrest⟩, hoctets⟩
      exact ⟨_, ⟨hlength, rfl⟩, _, ⟨hrest, rfl⟩, hoctets⟩

lemma encodeTerms_eq_ok {listing : Listing} {octets : List UInt8} :
    encodeTerms listing = .ok octets ↔
      (∀ entry ∈ listing, entry.2.length < UInt32.size ∧
        ∀ found ∈ entry.2, found.2.length < UInt32.size) ∧
        listing.flatMap termFrames = octets := by
  induction listing generalizing octets with
  | nil => simp [encodeTerms]
  | cons entry rest ih =>
    obtain ⟨term, documents⟩ := entry
    simp only [encodeTerms, bind_eq_ok, Frame.count_eq_ok, encodeDocuments_eq_ok, ih,
      List.forall_mem_cons, List.flatMap_cons, termFrames, counted, List.append_assoc, pure,
      Except.pure, Except.ok.injEq]
    constructor
    · rintro ⟨head, ⟨hlength, rfl⟩, body, ⟨hbody, rfl⟩, tail, ⟨hrest, rfl⟩, hoctets⟩
      exact ⟨⟨⟨hlength, hbody⟩, hrest⟩, hoctets⟩
    · rintro ⟨⟨⟨hlength, hbody⟩, hrest⟩, hoctets⟩
      exact ⟨_, ⟨hlength, rfl⟩, _, ⟨hbody, rfl⟩, _, ⟨hrest, rfl⟩, hoctets⟩

/-- **A store is written as the file of what it lists**, exactly if that can be counted. -/
theorem encode_eq_ok {store : Store} {octets : List UInt8} :
    store.encode = .ok octets ↔ Framable store.listing ∧ fileOf store.listing = octets := by
  unfold Store.encode Framable
  simp only [bind_eq_ok, Frame.count_eq_ok, encodeTerms_eq_ok, pure, Except.pure, Except.ok.injEq]
  constructor
  · rintro ⟨head, ⟨hlength, rfl⟩, tail, ⟨hterms, rfl⟩, hoctets⟩
    exact ⟨⟨hlength, hterms⟩, hoctets⟩
  · rintro ⟨⟨hlength, hterms⟩, hoctets⟩
    exact ⟨_, ⟨hlength, rfl⟩, _, ⟨hterms, rfl⟩, hoctets⟩

end Store

/-! ## What a file tells -/

lemma word_append_inj {a b : UInt32} {rest rest' : List UInt8}
    (h : Frame.word a ++ rest = Frame.word b ++ rest') : a = b ∧ rest = rest' := by
  obtain ⟨hword, hrest⟩ := List.append_inj h (by simp)
  have hread := Frame.readWord_word "word" a [] 0
  rw [hword, Frame.readWord_word] at hread
  simp only [Except.ok.injEq, Prod.mk.injEq, and_true] at hread
  exact ⟨hread.symm, hrest⟩

section

variable {α : Type} {frames : α → List UInt8} {a b : List α} {rest rest' : List UInt8}

/-- Records of which each tells itself are told together, if there are as many. -/
lemma flatMap_append_inj
    (hframes : ∀ x ∈ a, ∀ y ∈ b, ∀ {rest rest' : List UInt8},
      frames x ++ rest = frames y ++ rest' → x = y ∧ rest = rest')
    (hlength : a.length = b.length)
    (h : a.flatMap frames ++ rest = b.flatMap frames ++ rest') : a = b ∧ rest = rest' := by
  induction a generalizing b with
  | nil =>
    obtain rfl := List.length_eq_zero_iff.mp hlength.symm
    exact ⟨rfl, h⟩
  | cons x others ih =>
    obtain ⟨y, others', rfl⟩ :=
      List.exists_cons_of_length_pos (Nat.lt_of_lt_of_eq (by simp) hlength)
    rw [List.flatMap_cons, List.flatMap_cons, List.append_assoc, List.append_assoc] at h
    obtain ⟨rfl, hbehind⟩ := hframes x List.mem_cons_self y List.mem_cons_self h
    have hothers := ih (fun x hx y hy => hframes x (List.mem_cons_of_mem _ hx) y
      (List.mem_cons_of_mem _ hy)) (by simpa using hlength) hbehind
    simpa using hothers

/-- Counted records are told by their frames, and where they end. -/
lemma counted_append_inj
    (hframes : ∀ x ∈ a, ∀ y ∈ b, ∀ {rest rest' : List UInt8},
      frames x ++ rest = frames y ++ rest' → x = y ∧ rest = rest')
    (ha : a.length < UInt32.size) (hb : b.length < UInt32.size)
    (h : counted frames a ++ rest = counted frames b ++ rest') : a = b ∧ rest = rest' := by
  unfold counted at h
  rw [List.append_assoc, List.append_assoc] at h
  obtain ⟨hcount, h⟩ := word_append_inj h
  have hlength : a.length = b.length := by
    rw [← UInt32.toNat_ofNat_of_lt' ha, ← UInt32.toNat_ofNat_of_lt' hb, hcount]
  exact flatMap_append_inj hframes hlength h

end

/-- **A file tells its listing**, and where it ends. -/
theorem fileOf_append_inj {a b : Listing} (ha : Framable a) (hb : Framable b)
    {rest rest' : List UInt8} (h : fileOf a ++ rest = fileOf b ++ rest') :
    a = b ∧ rest = rest' := by
  refine counted_append_inj ?_ ha.1 hb.1 h
  rintro ⟨term, documents⟩ hx ⟨term', documents'⟩ hy rest rest' hterm
  obtain ⟨hlength, hdocuments⟩ := ha.2 _ hx
  obtain ⟨hlength', hdocuments'⟩ := hb.2 _ hy
  unfold termFrames at hterm
  rw [List.append_assoc, List.append_assoc] at hterm
  obtain ⟨hid, hterm⟩ := word_append_inj hterm
  dsimp only at hid
  have hbehind := counted_append_inj ?_ hlength hlength' hterm
  · simpa [hid] using hbehind
  rintro ⟨doc, positions⟩ hx ⟨doc', positions'⟩ hy rest rest' hdoc
  unfold documentFrames at hdoc
  rw [List.append_assoc, List.append_assoc] at hdoc
  obtain ⟨hid, hdoc⟩ := word_append_inj hdoc
  dsimp only at hid
  have hbehind := counted_append_inj (fun _ _ _ _ => word_append_inj) (hdocuments _ hx)
    (hdocuments' _ hy) hdoc
  simpa [hid] using hbehind

/-- No octets are the files of two listings. -/
lemma fileOf_inj {a b : Listing} (ha : Framable a) (hb : Framable b) (h : fileOf a = fileOf b) :
    a = b :=
  (fileOf_append_inj ha hb (congrArg (· ++ []) h)).1

end Retrieval.Posting

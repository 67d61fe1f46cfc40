import Retrieval.Posting.Store
import Retrieval.Proofs.Posting.Bitset

/-!
# The three layouts mean the same

Whatever its layout, a posting store means the set of documents of each term.  The two changes a
store can undergo act on that meaning in one way: registering a document leaves it alone, and
recording a term in a document adds that document to that term (`docsFor_register`,
`mem_docsFor_record`).  Two layouts know more: bit rows which documents are registered
(`registered`), and positional postings the positions of each pair (`positions?`), which recording
extends at the end (`positions?_record`).

`Canonical` collects the invariants of the layouts: none stores a term without documents, and bit
rows are canonical in the sense of `Bitset.Canonical`.  A canonical store is determined by its
layout, its sets of documents, the registered documents and the positions (`Canonical.ext`).
-/

namespace Retrieval.Posting

namespace Positions

lemma mem_docsFor {rows : Positions} {term doc : UInt32} :
    doc ∈ rows.docsFor term ↔ (rows.positions? term doc).isSome = true := by
  rw [docsFor, positions?]
  cases rows.get? term with
  | none => simp
  | some row => simp

lemma positions?_record {rows : Positions} {term doc other found : UInt32}
    {positions : List UInt32} :
    (rows.record term doc positions).positions? other found
      = if other = term ∧ found = doc then
          some ((rows.positions? term doc).getD [] ++ positions)
        else rows.positions? other found := by
  simp only [positions?, record, IdMap.get?_alter]
  by_cases hother : other = term
  · subst hother
    simp only [if_true, true_and, Option.bind_some, IdMap.get?_alter]
    cases rows.get? other <;> simp
  · simp [hother]

lemma positions?_eq_get?_getD (rows : Positions) (term doc : UInt32) :
    rows.positions? term doc = ((rows.get? term).getD .empty).get? doc := by
  rw [positions?]
  cases rows.get? term with
  | none => rfl
  | some row => rfl

/-- If no term is kept without documents, the positions say it all. -/
lemma ext_positions? {a b : Positions}
    (ha : ∀ {term row}, a.get? term = some row → ∃ doc, doc ∈ row.keys)
    (hb : ∀ {term row}, b.get? term = some row → ∃ doc, doc ∈ row.keys)
    (h : ∀ term doc, a.positions? term doc = b.positions? term doc) : a = b := by
  have hne : ∀ {row : IdMap (List UInt32)}, (∃ doc, doc ∈ row.keys) → row ≠ .empty := by
    rintro row ⟨doc, hdoc⟩ rfl
    simp at hdoc
  refine IdMap.ext_getD (fun hrow => hne (ha hrow)) (fun hrow => hne (hb hrow)) fun term => ?_
  refine IdMap.ext_get? fun doc => ?_
  rw [← positions?_eq_get?_getD, ← positions?_eq_get?_getD, h]

end Positions

/-- If no term is kept without documents, the sets of documents say it all. -/
lemma DocSets.ext_docsFor {a b : DocSets}
    (ha : ∀ {term docs}, a.get? term = some docs → ∃ doc, doc ∈ docs)
    (hb : ∀ {term docs}, b.get? term = some docs → ∃ doc, doc ∈ docs)
    (h : ∀ term, a.docsFor term = b.docsFor term) : a = b := by
  have hne : ∀ {docs : IdSet}, (∃ doc, doc ∈ docs) → docs ≠ .empty := by
    rintro docs ⟨doc, hdoc⟩ rfl
    exact IdSet.not_mem_empty doc hdoc
  exact IdMap.ext_getD (fun hdocs => hne (ha hdocs)) (fun hdocs => hne (hb hdocs)) h

lemma DocSets.mem_docsFor_record {rows : DocSets} {term doc other found : UInt32} :
    found ∈ (rows.record term doc).docsFor other
      ↔ (other = term ∧ found = doc) ∨ found ∈ rows.docsFor other := by
  simp only [DocSets.docsFor, DocSets.record, IdMap.get?_alter]
  by_cases hother : other = term
  · subst hother
    simp
  · simp [hother]

namespace Store

/-! ## What the layouts know beside the documents of a term -/

/-- The documents a store was told of; only bit rows remember them. -/
def registered : Store → List UInt32
  | bitset rows => rows.documents
  | _ => []

/-- The positions of a term in a document; only positional postings keep them. -/
def positions? (store : Store) (term doc : UInt32) : Option (List UInt32) :=
  match store with
  | positional rows => rows.positions? term doc
  | _ => none

/-! ## The invariant -/

/-- The invariant of postings in any layout. -/
def Canonical : Store → Prop
  | bitset rows => rows.Canonical
  | docSet rows => ∀ {term docs}, rows.get? term = some docs → ∃ doc, doc ∈ docs
  | positional rows => ∀ {term row}, rows.get? term = some row → ∃ doc, doc ∈ row.keys

theorem canonical_empty (representation : Representation) : (empty representation).Canonical := by
  cases representation with
  | bitset => exact Bitset.canonical_empty
  | docSet =>
    intro term docs h
    simp at h
  | positional =>
    intro term row h
    simp at h

theorem Canonical.register {store : Store} (h : store.Canonical) (doc : UInt32) :
    (store.register doc).Canonical := by
  cases store with
  | bitset rows => exact Bitset.Canonical.register h doc
  | docSet rows => exact h
  | positional rows => exact h

theorem Canonical.record {store : Store} (h : store.Canonical) (term doc : UInt32)
    (positions : List UInt32) : (store.record term doc positions).Canonical := by
  cases store with
  | bitset rows => exact Bitset.Canonical.record h term doc
  | docSet rows =>
    intro other docs hdocs
    rw [DocSets.record, IdMap.get?_alter] at hdocs
    split at hdocs
    · cases hdocs
      exact ⟨doc, IdSet.mem_insert.mpr (Or.inl rfl)⟩
    · exact h hdocs
  | positional rows =>
    intro other row hrow
    rw [Positions.record, IdMap.get?_alter] at hrow
    split at hrow
    · cases hrow
      exact ⟨doc, by simp⟩
    · exact h hrow

lemma Canonical.ascending_registered {store : Store} (h : store.Canonical) :
    store.registered.Pairwise (· < ·) := by
  cases store with
  | bitset rows => exact Bitset.Canonical.ascending h
  | docSet rows => exact List.Pairwise.nil
  | positional rows => exact List.Pairwise.nil

/-! ## The changes and what they mean -/

@[simp]
lemma representation_empty (representation : Representation) :
    (empty representation).representation = representation := by
  cases representation <;> rfl

@[simp]
lemma representation_register (store : Store) (doc : UInt32) :
    (store.register doc).representation = store.representation := by
  cases store <;> rfl

@[simp]
lemma representation_record (store : Store) (term doc : UInt32) (positions : List UInt32) :
    (store.record term doc positions).representation = store.representation := by
  cases store <;> rfl

@[simp]
lemma docsFor_empty (representation : Representation) (term : UInt32) :
    (empty representation).docsFor term = .empty := by
  cases representation <;> rfl

lemma exists_positional {store : Store} (h : store.representation = .positional) :
    ∃ rows, store = .positional rows := by
  cases store with
  | bitset rows => cases h
  | docSet rows => cases h
  | positional rows => exact ⟨rows, rfl⟩

lemma exists_bitset {store : Store} (h : store.representation = .bitset) :
    ∃ rows, store = .bitset rows := by
  cases store with
  | bitset rows => exact ⟨rows, rfl⟩
  | docSet rows => cases h
  | positional rows => cases h

/-- Registering a document leaves the documents of every term alone. -/
theorem docsFor_register {store : Store} (h : store.Canonical) (doc term : UInt32) :
    (store.register doc).docsFor term = store.docsFor term := by
  cases store with
  | bitset rows => exact Bitset.docsFor_register h doc term
  | docSet rows => rfl
  | positional rows => rfl

/-- Recording a term in a document adds that document to that term and nothing else. -/
theorem mem_docsFor_record {store : Store} (h : store.Canonical) {term doc other found : UInt32}
    {positions : List UInt32} :
    found ∈ (store.record term doc positions).docsFor other
      ↔ (other = term ∧ found = doc) ∨ found ∈ store.docsFor other := by
  cases store with
  | bitset rows => exact Bitset.mem_docsFor_record h
  | docSet rows => exact DocSets.mem_docsFor_record
  | positional rows =>
    change found ∈ (rows.record term doc positions).docsFor other
      ↔ (other = term ∧ found = doc) ∨ found ∈ rows.docsFor other
    rw [Positions.mem_docsFor, Positions.positions?_record, Positions.mem_docsFor]
    by_cases hpair : other = term ∧ found = doc
    · simp [hpair]
    · simp [hpair]

/-- Membership is asked of a store by `contains`. -/
theorem contains_iff {store : Store} (h : store.Canonical) {term doc : UInt32} :
    store.contains term doc = true ↔ doc ∈ store.docsFor term := by
  cases store with
  | bitset rows => exact Bitset.Canonical.contains_iff h
  | docSet rows => exact IdSet.contains_iff
  | positional rows => exact IdSet.contains_iff

@[simp]
lemma positions?_register (store : Store) (doc term found : UInt32) :
    (store.register doc).positions? term found = store.positions? term found := by
  cases store <;> rfl

/-- Positions are recorded behind those that are there. -/
lemma positions?_record {store : Store} (h : store.representation = .positional)
    {term doc other found : UInt32} {positions : List UInt32} :
    (store.record term doc positions).positions? other found
      = if other = term ∧ found = doc then
          some ((store.positions? term doc).getD [] ++ positions)
        else store.positions? other found := by
  cases store with
  | bitset rows => cases h
  | docSet rows => cases h
  | positional rows => exact Positions.positions?_record

/-- In positional postings the documents of a term are those with positions. -/
lemma mem_docsFor_iff_positions? {store : Store} (h : store.representation = .positional)
    {term doc : UInt32} :
    doc ∈ store.docsFor term ↔ (store.positions? term doc).isSome = true := by
  cases store with
  | bitset rows => cases h
  | docSet rows => cases h
  | positional rows => exact Positions.mem_docsFor

lemma registered_register {store : Store} (h : store.Canonical) (doc : UInt32) :
    (store.register doc).registered
      = if store.representation = .bitset then IdSet.insertSorted doc store.registered
        else [] := by
  cases store with
  | bitset rows => exact Bitset.documents_register h doc
  | docSet rows => rfl
  | positional rows => rfl

/-- Registering a registered document changes nothing, and only bit rows are changed at all. -/
lemma register_of_registered {store : Store} {doc : UInt32}
    (h : store.representation = .bitset → doc ∈ store.registered) : store.register doc = store := by
  cases store with
  | bitset rows =>
    have hdoc : doc ∈ rows.documents := h rfl
    exact congrArg bitset (if_pos hdoc)
  | docSet rows => rfl
  | positional rows => rfl

lemma registered_record {store : Store} (h : store.Canonical) (term doc : UInt32)
    (positions : List UInt32) :
    (store.record term doc positions).registered = (store.register doc).registered := by
  cases store <;> rfl

/-- **Extensionality.**  A canonical store is determined by its layout and by what it means. -/
theorem Canonical.ext {a b : Store} (ha : a.Canonical) (hb : b.Canonical)
    (hrepresentation : a.representation = b.representation)
    (hregistered : a.registered = b.registered)
    (hdocs : ∀ term, a.docsFor term = b.docsFor term)
    (hpositions : ∀ term doc, a.positions? term doc = b.positions? term doc) : a = b := by
  cases a with
  | bitset rows =>
    cases b with
    | bitset rows' =>
      have hsame : ∀ term doc, doc ∈ rows.docsFor term ↔ doc ∈ rows'.docsFor term := by
        intro term doc
        rw [show rows.docsFor term = rows'.docsFor term from hdocs term]
      rw [Bitset.Canonical.ext ha hb hregistered hsame]
    | docSet rows' => cases hrepresentation
    | positional rows' => cases hrepresentation
  | docSet rows =>
    cases b with
    | docSet rows' => rw [DocSets.ext_docsFor ha hb hdocs]
    | bitset rows' => cases hrepresentation
    | positional rows' => cases hrepresentation
  | positional rows =>
    cases b with
    | positional rows' => rw [Positions.ext_positions? ha hb hpositions]
    | bitset rows' => cases hrepresentation
    | docSet rows' => cases hrepresentation

end Store

end Retrieval.Posting

import Mathlib.Tactic.Common
import Retrieval.Posting.BitRow
import Retrieval.Proofs.Fault

/-!
# What a bit row selects

A bit row means something only beside the list whose elements its bits stand for, so everything
said of a row here is said through `testBit` and `select`.  Two facts carry the bit-row layout of
postings.  A row may be cut off or filled up at its end with unset bits without a change to what it
selects, and an unset bit opened at the slot where the list gets a new element does not change what
it selects either (`select_openSlot`), which is why registering a document late loses nothing.

`Trimmed` is the canonical stored form: the row ends with a set bit.  Two rows that are trimmed or
empty and test alike are equal (`eq_of_testBit`).
-/

namespace Retrieval.Posting.BitRow

/-! ## Testing bits -/

@[simp]
lemma testBit_nil (slot : Nat) : testBit [] slot = false := rfl

@[simp]
lemma testBit_cons_zero (bit : Bool) (row : BitRow) : testBit (bit :: row) 0 = bit := rfl

@[simp]
lemma testBit_cons_succ (bit : Bool) (row : BitRow) (slot : Nat) :
    testBit (bit :: row) (slot + 1) = row.testBit slot := rfl

lemma testBit_eq_true_iff {row : BitRow} {slot : Nat} :
    row.testBit slot = true ↔ row[slot]? = some true := by
  rw [testBit, List.getD_eq_getElem?_getD]
  cases row[slot]? <;> simp

lemma lt_length_of_testBit {row : BitRow} {slot : Nat} (h : row.testBit slot = true) :
    slot < row.length := by
  obtain ⟨hlt, -⟩ := List.getElem?_eq_some_iff.mp (testBit_eq_true_iff.mp h)
  exact hlt

lemma testBit_setBit (slot other : Nat) (row : BitRow) :
    (setBit slot row).testBit other = (decide (other = slot) || row.testBit other) := by
  induction slot generalizing other row with
  | zero => cases row <;> cases other <;> simp [setBit]
  | succ slot ih => cases row <;> cases other <;> simp [setBit, ih]

lemma testBit_append_zeros (row : BitRow) (width slot : Nat) :
    testBit (row ++ zeros width) slot = row.testBit slot := by
  rw [Bool.eq_iff_iff, testBit_eq_true_iff, testBit_eq_true_iff, List.getElem?_append]
  split
  · rfl
  · rename_i hslot
    rw [List.getElem?_eq_none (Nat.le_of_not_lt hslot)]
    simp [zeros, List.getElem?_replicate]

lemma testBit_fillTo (width slot : Nat) (row : BitRow) :
    (row.fillTo width).testBit slot = row.testBit slot :=
  testBit_append_zeros row _ slot

lemma testBit_zeros (width slot : Nat) : testBit (zeros width) slot = false := by
  simpa using testBit_append_zeros [] width slot

lemma testBit_ones {width slot : Nat} : testBit (ones width) slot = true ↔ slot < width := by
  rw [testBit_eq_true_iff, ones, List.getElem?_replicate]
  simp

/-! ## Lengths -/

@[simp]
lemma length_zeros (width : Nat) : (zeros width).length = width := List.length_replicate

@[simp]
lemma length_ones (width : Nat) : (ones width).length = width := List.length_replicate

lemma length_fillTo {width : Nat} {row : BitRow} (h : row.length ≤ width) :
    (row.fillTo width).length = width := by
  rw [fillTo, List.length_append, length_zeros]
  omega

/-- Rows of one width combine into one of that width. -/
lemma combine_of_length {f : Bool → Bool → Bool} {a b : BitRow} {width : Nat}
    (ha : a.length = width) (hb : b.length = width) :
    combine f a b = .ok (a.zipWith f b) ∧ (a.zipWith f b).length = width :=
  ⟨if_pos (ha.trans hb.symm), by rw [List.length_zipWith, ha, hb, Nat.min_self]⟩

/-- A row can be filled up to a width exactly if it is not wider. -/
lemma padTo_eq_ok {width : Nat} {row padded : BitRow} :
    row.padTo width = .ok padded ↔ row.length ≤ width ∧ row.fillTo width = padded := by
  by_cases h : row.length ≤ width
  · have hmissing : checkedSub width row.length = .ok (width - row.length) := if_pos h
    rw [padTo, hmissing, ok_bind, and_iff_right h]
    exact ⟨Except.ok.inj, congrArg Except.ok⟩
  · have hmissing : checkedSub width row.length = .error .subtractionOverflow := if_neg h
    rw [padTo, hmissing, error_bind]
    exact iff_of_false nofun fun hboth => h hboth.1

lemma length_setBit (slot : Nat) (row : BitRow) :
    (setBit slot row).length = max row.length (slot + 1) := by
  induction slot generalizing row with
  | zero => cases row <;> simp [setBit]
  | succ slot ih =>
    cases row with
    | nil => simp [setBit, ih]
    | cons bit rest =>
      simp only [setBit, List.length_cons, ih]
      omega

lemma length_openSlot_le (slot : Nat) (row : BitRow) :
    (openSlot slot row).length ≤ row.length + 1 := by
  unfold openSlot
  split
  · simp only [List.length_append, List.length_take, List.length_cons, List.length_drop]
    omega
  · omega

/-! ## Selection -/

lemma select_append {α : Type} (row₁ row₂ : BitRow) {items₁ items₂ : List α}
    (h : row₁.length = items₁.length) :
    select (row₁ ++ row₂) (items₁ ++ items₂) = row₁.select items₁ ++ row₂.select items₂ := by
  rw [select, List.zip_append h, List.filterMap_append]
  rfl

@[simp]
lemma select_nil_left {α : Type} (items : List α) : select [] items = [] := rfl

@[simp]
lemma select_nil_right {α : Type} (row : BitRow) : row.select ([] : List α) = [] := by
  simp [select]

@[simp]
lemma select_cons {α : Type} (bit : Bool) (row : BitRow) (item : α) (items : List α) :
    select (bit :: row) (item :: items)
      = (if bit then [item] else []) ++ row.select items := by
  cases bit <;> rfl

lemma mem_select {α : Type} {row : BitRow} {items : List α} {item : α} :
    item ∈ row.select items ↔ ∃ slot, row.testBit slot = true ∧ items[slot]? = some item := by
  induction row generalizing items with
  | nil => simp
  | cons bit rest ih =>
    cases items with
    | nil => simp
    | cons first others =>
      rw [select_cons, List.mem_append, ih]
      constructor
      · rintro (hfirst | ⟨slot, hbit, hitem⟩)
        · cases bit
          · simp at hfirst
          · exact ⟨0, rfl, by simpa [eq_comm] using hfirst⟩
        · exact ⟨slot + 1, hbit, hitem⟩
      · rintro ⟨slot, hbit, hitem⟩
        cases slot with
        | zero =>
          have hbit' : bit = true := hbit
          exact Or.inl (by simpa [hbit', eq_comm] using hitem)
        | succ slot => exact Or.inr ⟨slot, hbit, hitem⟩

/-- Only as many elements can be selected as the row has bits. -/
lemma select_take {α : Type} (row : BitRow) {items : List α} {count : Nat}
    (h : row.length ≤ count) : row.select (items.take count) = row.select items := by
  induction row generalizing items count with
  | nil => rfl
  | cons bit rest ih =>
    obtain ⟨count, rfl⟩ : ∃ smaller, count = smaller + 1 :=
      ⟨count - 1, by simp only [List.length_cons] at h; omega⟩
    cases items with
    | nil => rfl
    | cons first others =>
      rw [List.take_succ_cons, select_cons, select_cons, ih (by simpa using h)]

/-- **A new element takes nothing away.**  If an element is put into the list at a slot and an
unset bit into the row at the same slot, the row selects what it selected before. -/
theorem select_openSlot {α : Type} {slot : Nat} (row : BitRow) (item : α) {items : List α}
    (h : slot ≤ items.length) :
    (openSlot slot row).select (items.take slot ++ item :: items.drop slot)
      = row.select items := by
  unfold openSlot
  split
  · rename_i hslot
    have hlength : (row.take slot).length = (items.take slot).length := by
      simp only [List.length_take]
      omega
    rw [select_append _ _ hlength, select_cons]
    conv_rhs => rw [← List.take_append_drop slot row, ← List.take_append_drop slot items]
    rw [select_append _ _ hlength]
    rfl
  · -- the row ends before the slot, so it reads the same elements as before
    rename_i hslot
    have hshort : row.length ≤ slot := by omega
    rw [← select_take row hshort, List.take_append_of_le_length (by simp [h]), List.take_take,
      Nat.min_self, select_take row hshort]

/-- A row whose bits say which elements pass a test selects the elements that pass. -/
lemma select_eq_filter {α : Type} {row : BitRow} {items : List α} {test : α → Bool}
    (h : ∀ slot item, items[slot]? = some item → row.testBit slot = test item) :
    row.select items = items.filter test := by
  induction items generalizing row with
  | nil => simp
  | cons first others ih =>
    have hfirst := h 0 first rfl
    cases row with
    | nil =>
      rw [select_nil_left, eq_comm, List.filter_eq_nil_iff]
      intro item hitem
      obtain ⟨slot, hslot⟩ := List.mem_iff_getElem?.mp hitem
      simp [← h slot item hslot]
    | cons bit rest =>
      have hbit : bit = test first := hfirst
      rw [select_cons, ih fun slot item hitem => h (slot + 1) item hitem, List.filter_cons, hbit]
      cases test first <;> rfl

/-- A row as wide as a list selects as many elements as it has set bits. -/
lemma length_select {α : Type} {row : BitRow} {items : List α} (h : row.length = items.length) :
    (row.select items).length = row.card := by
  induction row generalizing items with
  | nil => rfl
  | cons bit rest ih =>
    obtain ⟨first, others, rfl⟩ := List.exists_cons_of_length_eq_add_one h.symm
    rw [select_cons, List.length_append, ih (Nat.succ.inj h), card, card, List.count_cons,
      Nat.add_comm]
    cases bit <;> rfl

/-! ## Trimmed rows -/

/-- The stored form of a row: it ends with a set bit. -/
def Trimmed (row : BitRow) : Prop := row.getLast? = some true

lemma Trimmed.ne_nil {row : BitRow} (h : row.Trimmed) : row ≠ [] := by
  rintro rfl
  simp [Trimmed] at h

lemma Trimmed.testBit_last {row : BitRow} (h : row.Trimmed) :
    row.testBit (row.length - 1) = true := by
  rwa [testBit_eq_true_iff, ← List.getLast?_eq_getElem?]

lemma trimmed_setBit {slot : Nat} {row : BitRow} (h : row = [] ∨ row.Trimmed) :
    (setBit slot row).Trimmed := by
  have hlength := length_setBit slot row
  rw [Trimmed, List.getLast?_eq_getElem?, ← testBit_eq_true_iff, testBit_setBit, hlength,
    Bool.or_eq_true, decide_eq_true_iff]
  -- the last bit is the new one, unless the row reached further before
  rcases h with rfl | hrow
  · exact Or.inl (by simp)
  · rcases Nat.lt_or_ge slot row.length with hslot | hslot
    · right
      rw [Nat.max_eq_left (by omega)]
      exact hrow.testBit_last
    · left
      omega

lemma trimmed_openSlot {slot : Nat} {row : BitRow} (h : row.Trimmed) :
    (openSlot slot row).Trimmed := by
  unfold openSlot
  split
  · rename_i hslot
    have hdrop : (row.drop slot).getLast? = some true := by
      rw [List.getLast?_drop, if_neg (by omega)]
      exact h
    rw [Trimmed, List.getLast?_append, List.getLast?_cons, hdrop]
    rfl
  · exact h

/-- **Canonicity.**  A row that is trimmed, or has no bits at all, is determined by its bits. -/
theorem eq_of_testBit {a b : BitRow} (ha : a = [] ∨ a.Trimmed) (hb : b = [] ∨ b.Trimmed)
    (h : ∀ slot, a.testBit slot = b.testBit slot) : a = b := by
  have hlast : ∀ {x y : BitRow}, x = [] ∨ x.Trimmed → (∀ slot, x.testBit slot = y.testBit slot) →
      x.length ≤ y.length := by
    rintro x y (rfl | hx) hxy
    · exact Nat.zero_le _
    · have hbit := lt_length_of_testBit ((hxy (x.length - 1)).symm.trans hx.testBit_last)
      omega
  have hlength : a.length = b.length :=
    Nat.le_antisymm (hlast ha h) (hlast hb fun slot => (h slot).symm)
  refine List.ext_getElem hlength fun slot hslot hslot' => ?_
  have hbit := h slot
  simpa [testBit, List.getD_eq_getElem?_getD, hslot, hslot'] using hbit

end Retrieval.Posting.BitRow

import Mathlib.Tactic.Common
import Retrieval.Index.Builder
import Retrieval.Proofs.Symbol.Table

/-!
# The stems of one document

While a document is added its stems pass one after the other, and three things are kept: the table
of terms, the id for the next new term, and the positions of each term.  Empty stems are passed over
but count as places.

The table and the next id move together: `Numbers seen stems` says that the terms are the distinct
stems of all documents up to here, numbered in the order of their first occurrences
(`addAll_numbers`).  The positions are described without regard to how terms are numbered.
Whatever table the terms end up in, the positions kept for an id are the places at which a stem
stands that this table binds to the id (`get?_addAll`), since a binding once made stays.

Both statements assume that the pass came to its end.  `exists_addAll` says when it does: if the
terms and the places of the document fit into 32-bit ids.
-/

namespace Retrieval

open Retrieval.Symbol (Table)
open Retrieval.Symbol.Table (numbered)

/-- The stems of a text, one for each token. -/
def Analysis.stems (analysis : Analysis) (content : String) : List String :=
  (analysis.normalize content).map analysis.lemmatize

namespace Builder

/-- The places, counted from 1, of the wanted ones among stems that follow `offset` others. -/
def places (wanted : String → Bool) (offset : Nat) : List String → List UInt32
  | [] => []
  | stem :: rest =>
    if wanted stem then UInt32.ofNat (offset + 1) :: places wanted (offset + 1) rest
    else places wanted (offset + 1) rest

/-- What is known of a term after further positions of it were found, if any. -/
def withPlaces (known? : Option (List UInt32)) (found : List UInt32) : Option (List UInt32) :=
  if found = [] then known? else some (known?.getD [] ++ found)

@[simp]
lemma withPlaces_nil (known? : Option (List UInt32)) : withPlaces known? [] = known? := rfl

lemma withPlaces_cons (known? : Option (List UInt32)) (place : UInt32) (found : List UInt32) :
    withPlaces known? (place :: found) = withPlaces (some (known?.getD [] ++ [place])) found := by
  cases found with
  | nil => rfl
  | cons next rest => simp [withPlaces]

lemma isSome_withPlaces {known? : Option (List UInt32)} {found : List UInt32} :
    (withPlaces known? found).isSome = true ↔ known?.isSome = true ∨ found ≠ [] := by
  by_cases h : found = []
  · simp [h]
  · simp [withPlaces, h]

lemma places_ne_nil {wanted : String → Bool} {offset : Nat} {stems : List String} :
    places wanted offset stems ≠ [] ↔ ∃ stem ∈ stems, wanted stem = true := by
  induction stems generalizing offset with
  | nil => simp [places]
  | cons stem rest ih =>
    by_cases h : wanted stem = true
    · simp [places, h]
    · simp [places, h, ih]

lemma mem_places {wanted : String → Bool} {offset : Nat} {stems : List String} {found : UInt32} :
    found ∈ places wanted offset stems ↔ ∃ place stem, stems[place]? = some stem ∧
      wanted stem = true ∧ found = UInt32.ofNat (offset + place + 1) := by
  induction stems generalizing offset with
  | nil => simp [places]
  | cons stem rest ih =>
    have hrest : (∃ place other, (stem :: rest)[place + 1]? = some other ∧ wanted other = true ∧
          found = UInt32.ofNat (offset + (place + 1) + 1))
        ↔ found ∈ places wanted (offset + 1) rest := by
      rw [ih]
      refine exists_congr fun place => exists_congr fun other => ?_
      rw [List.getElem?_cons_succ, Nat.add_right_comm offset 1 place, Nat.add_assoc offset place 1]
    have hfirst : (∃ other, (stem :: rest)[0]? = some other ∧ wanted other = true ∧
          found = UInt32.ofNat (offset + 0 + 1))
        ↔ wanted stem = true ∧ found = UInt32.ofNat (offset + 1) := by
      simp
    rw [← Nat.or_exists_add_one, hfirst, hrest, places]
    by_cases hwanted : wanted stem = true
    · simp [hwanted]
    · simp [hwanted]

/-- Places ascend. -/
lemma ascending_places {wanted : String → Bool} {offset : Nat} {stems : List String}
    (h : offset + stems.length < UInt32.size) :
    (places wanted offset stems).Pairwise (· < ·) := by
  induction stems generalizing offset with
  | nil => exact List.Pairwise.nil
  | cons stem rest ih =>
    rw [List.length_cons] at h
    have hrest : (places wanted (offset + 1) rest).Pairwise (· < ·) := ih (by omega)
    unfold places
    split
    · refine List.pairwise_cons.mpr ⟨fun later hlater => ?_, hrest⟩
      obtain ⟨place, other, hother, -, rfl⟩ := mem_places.mp hlater
      obtain ⟨hplace, -⟩ := List.getElem?_eq_some_iff.mp hother
      rw [UInt32.lt_iff_toNat_lt, UInt32.toNat_ofNat_of_lt' (by omega),
        UInt32.toNat_ofNat_of_lt' (by omega)]
      omega
    · exact hrest

namespace Occurrences

/-! ## One stem -/

/-- The terms are the distinct stems, numbered in the order of their first occurrences. -/
structure Numbers (seen : Occurrences) (stems : List String) : Prop where
  terms : seen.terms = numbered (distinct stems)
  nextTerm : seen.nextTerm = UInt32.ofNat ((distinct stems).length + 1)
  bound : (distinct stems).length + 1 < UInt32.size

lemma add_eq (seen : Occurrences) (stem : String) (offset : Nat) :
    seen.add stem offset = seen.terms.insert stem seen.nextTerm >>= fun bound =>
      (if seen.nextTerm ≤ bound.1 then checkedAdd bound.1 1 else .ok seen.nextTerm) >>=
        fun nextTerm => checkedAdd (UInt32.ofNat offset) 1 >>= fun position =>
          .ok ⟨bound.2, nextTerm, seen.positions.alter bound.1 (·.getD [] ++ [position])⟩ := by
  rw [add]
  congr 1
  funext ⟨term, terms⟩
  by_cases hnew : seen.nextTerm ≤ term
  · simp only [if_pos hnew]
    rfl
  · simp only [if_neg hnew]
    rfl

/-- What adding a stem comes to, step by step. -/
lemma add_eq_ok {seen later : Occurrences} {stem : String} {offset : Nat} :
    seen.add stem offset = .ok later ↔
      ∃ term, seen.terms.insert stem seen.nextTerm = .ok (term, later.terms) ∧
        (if seen.nextTerm ≤ term then checkedAdd term 1 else .ok seen.nextTerm)
          = .ok later.nextTerm ∧
        ∃ position, checkedAdd (UInt32.ofNat offset) 1 = .ok position ∧
          later.positions = seen.positions.alter term (·.getD [] ++ [position]) := by
  rw [add_eq, bind_eq_ok]
  constructor
  · rintro ⟨⟨term, terms⟩, hinsert, h⟩
    obtain ⟨nextTerm, hnext, h⟩ := bind_eq_ok.mp h
    obtain ⟨position, hposition, h⟩ := bind_eq_ok.mp h
    cases h
    exact ⟨term, hinsert, hnext, position, hposition, rfl⟩
  · rintro ⟨term, hinsert, hnext, position, hposition, hpositions⟩
    refine ⟨(term, later.terms), hinsert, ?_⟩
    refine bind_eq_ok.mpr ⟨later.nextTerm, hnext, ?_⟩
    refine bind_eq_ok.mpr ⟨position, hposition, ?_⟩
    rw [← hpositions]

/-- The bindings of the stems, once the stem is bound, and the id that comes next. -/
lemma Numbers.insert {seen : Occurrences} {stems : List String} (h : seen.Numbers stems)
    (stem : String) :
    ∃ term, seen.terms.insert stem seen.nextTerm
        = .ok (term, numbered (distinct (stems ++ [stem]))) ∧
      (if seen.nextTerm ≤ term then checkedAdd term 1 else .ok seen.nextTerm)
        = checkedAdd (UInt32.ofNat (distinct (stems ++ [stem])).length) 1 := by
  have hlength : checkedAdd (UInt32.ofNat (distinct stems).length) 1 = .ok seen.nextTerm := by
    rw [h.nextTerm, checkedAdd_ofNat_one h.bound]
  rw [h.terms, distinct_append_singleton]
  by_cases hmem : stem ∈ stems
  · refine ⟨Table.idIn (distinct stems) stem, ?_, ?_⟩
    · rw [if_pos hmem]
      exact Table.insert_numbered_of_mem (mem_distinct.mpr hmem) _
    · -- a known stem has a smaller number than the next new one
      have hplace := List.idxOf_lt_length_iff.mpr (mem_distinct.mpr hmem)
      have hlt : Table.idIn (distinct stems) stem < seen.nextTerm := by
        rw [UInt32.lt_iff_toNat_lt, Table.toNat_idIn h.bound, h.nextTerm,
          UInt32.toNat_ofNat_of_lt' h.bound]
        omega
      rw [if_neg (UInt32.not_le.mpr hlt), if_pos hmem, hlength]
  · refine ⟨seen.nextTerm, ?_, ?_⟩
    · rw [if_neg hmem, h.nextTerm]
      exact Table.insert_numbered_of_not_mem (fun hc => hmem (mem_distinct.mp hc)) h.bound
    · rw [if_pos (UInt32.le_refl _), if_neg hmem, h.nextTerm, List.length_append,
        List.length_singleton]

lemma add_numbers {seen later : Occurrences} {stems : List String} {stem : String} {offset : Nat}
    (h : seen.Numbers stems) (hadd : seen.add stem offset = .ok later) :
    later.Numbers (stems ++ [stem]) := by
  obtain ⟨term, hinsert, hnext, -⟩ := add_eq_ok.mp hadd
  obtain ⟨term', hinsert', hnext'⟩ := h.insert stem
  rw [hinsert'] at hinsert
  obtain ⟨rfl, hterms⟩ := Prod.mk.inj (Except.ok.inj hinsert)
  rw [hnext', checkedAdd_eq_ok] at hnext
  obtain ⟨hfits, hsum⟩ := hnext
  have hsmall : (distinct (stems ++ [stem])).length < UInt32.size := by
    have := h.bound
    rw [distinct_append_singleton]
    split
    · omega
    · simpa using this
  rw [UInt32.toNat_ofNat_of_lt' hsmall] at hfits
  exact ⟨hterms.symm, by rw [← hsum, UInt32.ofNat_add]; rfl, hfits⟩

lemma exists_add {seen : Occurrences} {stems : List String} {stem : String} {offset : Nat}
    (h : seen.Numbers stems) (hterms : (distinct (stems ++ [stem])).length + 1 < UInt32.size)
    (hplace : offset + 1 < UInt32.size) : ∃ later, seen.add stem offset = .ok later := by
  obtain ⟨term, hinsert, hnext⟩ := h.insert stem
  rw [checkedAdd_ofNat_one hterms] at hnext
  exact ⟨⟨_, _, _⟩, add_eq_ok.mpr ⟨term, hinsert, hnext, _, checkedAdd_ofNat_one hplace, rfl⟩⟩

/-! ## All stems -/

variable {lemmatize : Stem.Lemmatizer}

/-- The stems of tokens that become terms. -/
def kept (stems : List String) : List String :=
  stems.filter (· ≠ "")

lemma addAll_cons_of_empty {token : String} (h : lemmatize token = "") (seen : Occurrences)
    (offset : Nat) (rest : List String) :
    seen.addAll lemmatize offset (token :: rest) = seen.addAll lemmatize (offset + 1) rest := by
  simp [addAll, h]

lemma addAll_cons_of_ne {token : String} (h : lemmatize token ≠ "") (seen : Occurrences)
    (offset : Nat) (rest : List String) :
    seen.addAll lemmatize offset (token :: rest)
      = seen.add (lemmatize token) offset >>= fun later =>
          later.addAll lemmatize (offset + 1) rest := by
  simp [addAll, h]

/-- The stems that come first are added before the others. -/
lemma addAll_append (seen : Occurrences) (offset : Nat) (tokens more : List String) :
    seen.addAll lemmatize offset (tokens ++ more)
      = seen.addAll lemmatize offset tokens >>= fun later =>
          later.addAll lemmatize (offset + tokens.length) more := by
  induction tokens generalizing seen offset with
  | nil => rfl
  | cons token rest ih =>
    rw [List.length_cons, Nat.add_comm rest.length 1, ← Nat.add_assoc, List.cons_append]
    by_cases hempty : lemmatize token = ""
    · rw [addAll_cons_of_empty hempty, addAll_cons_of_empty hempty, ih]
    · rw [addAll_cons_of_ne hempty, addAll_cons_of_ne hempty]
      cases seen.add (lemmatize token) offset with
      | error stop => rfl
      | ok later => exact ih later (offset + 1)

/-- **The terms after a document.**  They are numbered on through its stems. -/
theorem addAll_numbers {seen later : Occurrences} {stems : List String} {tokens : List String}
    {offset : Nat} (h : seen.Numbers stems)
    (hadd : seen.addAll lemmatize offset tokens = .ok later) :
    later.Numbers (stems ++ kept (tokens.map lemmatize)) := by
  induction tokens generalizing seen stems offset with
  | nil =>
    cases hadd
    simpa [kept] using h
  | cons token rest ih =>
    by_cases hempty : lemmatize token = ""
    · rw [addAll_cons_of_empty hempty] at hadd
      simpa [kept, hempty] using ih h hadd
    · rw [addAll_cons_of_ne hempty] at hadd
      obtain ⟨between, hbetween, hadd⟩ := bind_eq_ok.mp hadd
      simpa [kept, hempty] using ih (add_numbers h hbetween) hadd

/-- **A document that fits is passed through.** -/
theorem exists_addAll {seen : Occurrences} {stems : List String} {tokens : List String}
    {offset : Nat} (h : seen.Numbers stems)
    (hterms : (distinct (stems ++ kept (tokens.map lemmatize))).length + 1 < UInt32.size)
    (hplaces : offset + tokens.length < UInt32.size) :
    ∃ later, seen.addAll lemmatize offset tokens = .ok later := by
  induction tokens generalizing seen stems offset with
  | nil => exact ⟨seen, rfl⟩
  | cons token rest ih =>
    rw [List.length_cons] at hplaces
    by_cases hempty : lemmatize token = ""
    · rw [addAll_cons_of_empty hempty]
      exact ih h (by simpa [kept, hempty] using hterms) (by omega)
    · have hkept : stems ++ kept ((token :: rest).map lemmatize)
          = (stems ++ [lemmatize token]) ++ kept (rest.map lemmatize) := by
        simp [kept, hempty]
      rw [hkept] at hterms
      have hfirst : (distinct (stems ++ [lemmatize token])).length + 1 < UInt32.size := by
        rw [distinct_append (stems ++ [lemmatize token]), List.length_append] at hterms
        omega
      have hplace : offset + 1 < UInt32.size := by omega
      obtain ⟨between, hbetween⟩ := exists_add h hfirst hplace
      rw [addAll_cons_of_ne hempty, hbetween]
      exact ih (add_numbers h hbetween) hterms (by omega)

/-- A stem once bound stays bound. -/
lemma addAll_extends {seen later : Occurrences} {tokens : List String} {offset : Nat}
    (hadd : seen.addAll lemmatize offset tokens = .ok later) :
    seen.terms.Extends later.terms := by
  induction tokens generalizing seen offset with
  | nil =>
    cases hadd
    exact Table.Extends.refl _
  | cons token rest ih =>
    by_cases hempty : lemmatize token = ""
    · rw [addAll_cons_of_empty hempty] at hadd
      exact ih hadd
    · rw [addAll_cons_of_ne hempty] at hadd
      obtain ⟨between, hbetween, hadd⟩ := bind_eq_ok.mp hadd
      obtain ⟨term, hinsert, -⟩ := add_eq_ok.mp hbetween
      exact (Table.insert_extends hinsert).1.trans (ih hadd)

/-- Whether a table binds a stem to an id. -/
def bindsTo (terms : Table) (id : UInt32) (stem : String) : Bool :=
  stem ≠ "" ∧ terms.lookup stem = some id

/-- **The positions after a document.**  In whatever table the terms end up, the positions kept for
an id grow by the places of the stems that the table binds to it. -/
theorem get?_addAll {seen later : Occurrences} {tokens : List String} {offset : Nat}
    {terms : Table} (hadd : seen.addAll lemmatize offset tokens = .ok later)
    (hterms : later.terms.Extends terms) (id : UInt32) :
    later.positions.get? id
      = withPlaces (seen.positions.get? id)
          (places (bindsTo terms id) offset (tokens.map lemmatize)) := by
  induction tokens generalizing seen offset with
  | nil =>
    cases hadd
    rfl
  | cons token rest ih =>
    by_cases hempty : lemmatize token = ""
    · rw [addAll_cons_of_empty hempty] at hadd
      have hpassed : bindsTo terms id (lemmatize token) = false := by simp [bindsTo, hempty]
      rw [ih hadd, List.map_cons, places, hpassed]
      rfl
    · rw [addAll_cons_of_ne hempty] at hadd
      obtain ⟨between, hbetween, hadd⟩ := bind_eq_ok.mp hadd
      obtain ⟨term, hinsert, -, position, hposition, hpositions⟩ := add_eq_ok.mp hbetween
      -- the stem was bound when it passed, so the last table binds it to the same id
      have hbound : terms.lookup (lemmatize token) = some term :=
        hterms _ _ (addAll_extends hadd _ _ (Table.insert_extends hinsert).2)
      have hplace : position = UInt32.ofNat (offset + 1) := by
        rw [← (checkedAdd_eq_ok.mp hposition).2, UInt32.ofNat_add]
        rfl
      rw [ih hadd, hpositions, IdMap.get?_alter, List.map_cons, places]
      by_cases hid : id = term
      · have hwanted : bindsTo terms id (lemmatize token) = true := by
          simp [bindsTo, hempty, hbound, hid]
        rw [if_pos hid, hwanted, if_pos rfl, withPlaces_cons, hplace, hid]
      · have hother : bindsTo terms id (lemmatize token) = false := by
          simp [bindsTo, hempty, hbound, Ne.symm hid]
        rw [if_neg hid, hother]
        rfl

end Occurrences

end Builder

end Retrieval

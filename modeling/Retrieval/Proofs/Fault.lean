import Mathlib.Tactic.Common
import Retrieval.Fault

/-!
# Computations that can stop

What a sequence of steps yields, each step yielded: `bind_eq_ok` peels the first step off a
computation that came to an end, so that a proof about a run follows the text of the run.  A list of
computations came to its end exactly if each of them did, which is told by equations between lists
(`mapM_eq_ok`, `mapM_eq_some`).

A computation over a state has a state at its end also if it goes wrong; there the first step is
peeled off by `run_bind_of_ok` and `run_bind_of_error`.
-/

namespace Retrieval

variable {ε α β : Type}

/-- A sequence of two steps came to an end exactly if both did. -/
lemma bind_eq_ok {first : Except ε α} {next : α → Except ε β} {result : β} :
    (first >>= next) = .ok result ↔ ∃ value, first = .ok value ∧ next value = .ok result := by
  cases first with
  | error reason => simp [bind, Except.bind]
  | ok value => simp [bind, Except.bind]

/-- A sequence of two steps went wrong exactly if the first did, or the second after it. -/
lemma bind_eq_error {first : Except ε α} {next : α → Except ε β} {reason : ε} :
    (first >>= next) = .error reason ↔
      first = .error reason ∨ ∃ value, first = .ok value ∧ next value = .error reason := by
  cases first with
  | error met => simp [bind, Except.bind]
  | ok value => simp [bind, Except.bind]

/-- A computation went wrong exactly if it has no result. -/
lemma exists_eq_error_iff {computation : Except ε α} :
    (∃ reason, computation = .error reason) ↔ ¬ ∃ value, computation = .ok value := by
  cases computation <;> simp

lemma map_eq_ok {f : α → β} {computation : Except ε α} {result : β} :
    computation.map f = .ok result ↔ ∃ value, computation = .ok value ∧ f value = result := by
  cases computation with
  | error reason => simp [Except.map]
  | ok value => simp [Except.map]

lemma map_eq_error {f : α → β} {computation : Except ε α} {reason : ε} :
    computation.map f = .error reason ↔ computation = .error reason := by
  cases computation with
  | error met => simp [Except.map]
  | ok value => simp [Except.map]

/-- Two maps in a row are one. -/
lemma map_map {γ : Type} (f : α → β) (g : β → γ) (computation : Except ε α) :
    (computation.map f).map g = computation.map (g ∘ f) := by
  cases computation <;> rfl

@[simp]
lemma ok_bind (value : α) (next : α → Except ε β) : (Except.ok value >>= next) = next value := rfl

@[simp]
lemma error_bind (reason : ε) (next : α → Except ε β) :
    ((Except.error reason : Except ε α) >>= next) = .error reason := rfl

@[simp]
lemma mapError_eq_ok {ε' : Type} {f : ε → ε'} {computation : Except ε α} {value : α} :
    computation.mapError f = .ok value ↔ computation = .ok value := by
  cases computation <;> simp [Except.mapError]

lemma mapError_eq_error {ε' : Type} {f : ε → ε'} {computation : Except ε α} {reason : ε'} :
    computation.mapError f = .error reason ↔ ∃ met, computation = .error met ∧ f met = reason := by
  cases computation <;> simp [Except.mapError]

@[simp]
lemma liftError_eq_ok {computation : Except ε α} {value : α} :
    liftError computation = .ok value ↔ computation = .ok value := by
  cases computation <;> simp [liftError]

/-- What can only report an error does not stop. -/
@[simp]
lemma liftError_ne_fault {computation : Except ε α} {fault : Fault} :
    liftError computation ≠ .error (.fault fault) := by
  cases computation <;> simp [liftError]

@[simp]
lemma liftFault_eq_fault {E : Type} {computation : Except Fault α} {fault : Fault} :
    liftFault (E := E) computation = .error (.fault fault) ↔ computation = .error fault := by
  cases computation <;> simp [liftFault]

lemma liftFault_eq_ok {E : Type} {computation : Except Fault α} {value : α} :
    liftFault (E := E) computation = .ok value ↔ computation = .ok value := by
  cases computation <;> simp [liftFault]

/-- What can only stop goes wrong exactly as it stops. -/
lemma liftFault_eq_error {E : Type} {computation : Except Fault α} {failure : Failure E} :
    liftFault computation = .error failure ↔
      ∃ fault, failure = .fault fault ∧ computation = .error fault := by
  cases computation with
  | ok value => simp [liftFault]
  | error met => simp [liftFault, eq_comm]

/-! ## Lists of computations -/

/-- All computations came to an end exactly if each did. -/
lemma mapM_eq_ok {f : α → Except ε β} {items : List α} {results : List β} :
    items.mapM f = .ok results ↔ items.map f = results.map .ok := by
  induction items generalizing results with
  | nil => cases results <;> simp [pure, Except.pure]
  | cons first rest ih =>
    rw [List.mapM_cons, bind_eq_ok, List.map_cons]
    constructor
    · rintro ⟨result, hfirst, h⟩
      obtain ⟨others, hrest, hresults⟩ := bind_eq_ok.mp h
      cases hresults
      rw [hfirst, ih.mp hrest, List.map_cons]
    · intro h
      cases results with
      | nil => cases h
      | cons result others =>
        rw [List.map_cons, List.cons.injEq] at h
        exact ⟨result, h.1, bind_eq_ok.mpr ⟨others, ih.mpr h.2, rfl⟩⟩

/-- All values are there exactly if each is. -/
lemma mapM_eq_some {f : α → Option β} {items : List α} {results : List β} :
    items.mapM f = some results ↔ items.map f = results.map some := by
  induction items generalizing results with
  | nil => cases results <;> simp
  | cons first rest ih =>
    rw [List.mapM_cons, Option.bind_eq_bind, Option.bind_eq_some_iff, List.map_cons]
    constructor
    · rintro ⟨result, hfirst, h⟩
      obtain ⟨others, hrest, hresults⟩ := Option.bind_eq_some_iff.mp h
      cases hresults
      rw [hfirst, ih.mp hrest, List.map_cons]
    · intro h
      cases results with
      | nil => cases h
      | cons result others =>
        rw [List.map_cons, List.cons.injEq] at h
        exact ⟨result, h.1, Option.bind_eq_some_iff.mpr ⟨others, ih.mpr h.2, rfl⟩⟩

/-- A list of values is there unless one of them is not. -/
lemma exists_mapM_eq_some {f : α → Option β} {items : List α} (h : ∀ item ∈ items, f item ≠ none) :
    ∃ results, items.mapM f = some results := by
  induction items with
  | nil => exact ⟨[], rfl⟩
  | cons first rest ih =>
    rw [List.forall_mem_cons] at h
    obtain ⟨result, hfirst⟩ := Option.ne_none_iff_exists'.mp h.1
    obtain ⟨others, hrest⟩ := ih h.2
    exact ⟨result :: others, by
      rw [mapM_eq_some, List.map_cons, hfirst, mapM_eq_some.mp hrest, List.map_cons]⟩

/-- A list of values is missing as one of them is. -/
lemma exists_of_mapM_eq_none {f : α → Option β} {items : List α} (h : items.mapM f = none) :
    ∃ item ∈ items, f item = none := by
  by_contra hall
  obtain ⟨results, hresults⟩ :=
    exists_mapM_eq_some fun item hitem hnone => hall ⟨item, hitem, hnone⟩
  rw [h] at hresults
  cases hresults

/-- A list of computations goes wrong as one of them does. -/
lemma exists_of_mapM_eq_error {f : α → Except ε β} {items : List α} {reason : ε}
    (h : items.mapM f = .error reason) : ∃ item ∈ items, f item = .error reason := by
  induction items with
  | nil => cases h
  | cons first rest ih =>
    rw [List.mapM_cons] at h
    rcases bind_eq_error.mp h with hfirst | ⟨result, -, h⟩
    · exact ⟨first, List.mem_cons_self, hfirst⟩
    · rcases bind_eq_error.mp h with hrest | ⟨others, -, h⟩
      · obtain ⟨item, hitem, hwrong⟩ := ih hrest
        exact ⟨item, List.mem_cons_of_mem first hitem, hwrong⟩
      · cases h

lemma mapM_eq_ok_map {f : α → Except ε β} {g : α → β} {items : List α}
    (h : ∀ item ∈ items, f item = .ok (g item)) : items.mapM f = .ok (items.map g) := by
  rw [mapM_eq_ok, List.map_map]
  exact List.map_congr_left h

/-- A run over items goes wrong at one of them, behind others that it came through. -/
lemma foldlM_eq_error {step : β → α → Except ε β} {items : List α} {start : β} {reason : ε} :
    items.foldlM step start = .error reason ↔
      ∃ front item rest state, items = front ++ item :: rest ∧
        front.foldlM step start = .ok state ∧ step state item = .error reason := by
  induction items generalizing start with
  | nil => simp [pure, Except.pure]
  | cons first others ih =>
    rw [List.foldlM_cons, bind_eq_error]
    constructor
    · rintro (hfirst | ⟨between, hfirst, hothers⟩)
      · exact ⟨[], first, others, start, rfl, rfl, hfirst⟩
      · obtain ⟨front, item, rest, state, rfl, hfront, hstop⟩ := ih.mp hothers
        refine ⟨first :: front, item, rest, state, rfl, ?_, hstop⟩
        rw [List.foldlM_cons, hfirst, ok_bind, hfront]
    · rintro ⟨front, item, rest, state, hitems, hfront, hstop⟩
      cases front with
      | nil =>
        cases hitems
        cases hfront
        exact Or.inl hstop
      | cons head front =>
        cases hitems
        obtain ⟨between, hfirst, hfront⟩ := bind_eq_ok.mp hfront
        exact Or.inr ⟨between, hfirst, ih.mpr ⟨front, item, rest, state, rfl, hfront, hstop⟩⟩

/-! ## Computations over a state -/

section State

variable {σ : Type}

/-- A sequence of two steps goes on with the second where the first came to. -/
lemma run_bind_of_ok {first : ExceptT ε (StateM σ) α} {next : α → ExceptT ε (StateM σ) β}
    {state later : σ} {value : α} (h : first.run.run state = (.ok value, later)) :
    (first >>= next).run.run state = (next value).run.run later := by
  rw [ExceptT.run_bind, StateT.run_bind, h]
  rfl

/-- A sequence of two steps ends with the first if that goes wrong. -/
lemma run_bind_of_error {first : ExceptT ε (StateM σ) α} {next : α → ExceptT ε (StateM σ) β}
    {state later : σ} {reason : ε} (h : first.run.run state = (.error reason, later)) :
    (first >>= next).run.run state = (.error reason, later) := by
  rw [ExceptT.run_bind, StateT.run_bind, h]
  rfl

/-- A map of what is yielded leaves the state alone. -/
lemma run_map {first : ExceptT ε (StateM σ) α} {f : α → β} {state : σ} :
    (f <$> first).run.run state
      = ((first.run.run state).1.map f, (first.run.run state).2) := by
  rw [ExceptT.run_map, StateT.run_map]
  rfl

lemma run_tryCatch_of_ok {first : ExceptT ε (StateM σ) α} {handle : ε → ExceptT ε (StateM σ) α}
    {state later : σ} {value : α} (h : first.run.run state = (.ok value, later)) :
    (tryCatch first handle).run.run state = (.ok value, later) := by
  rw [ExceptT.run_tryCatch, StateT.run_bind, h]
  rfl

/-- What goes wrong is handled in the state that it left. -/
lemma run_tryCatch_of_error {first : ExceptT ε (StateM σ) α}
    {handle : ε → ExceptT ε (StateM σ) α} {state later : σ} {reason : ε}
    (h : first.run.run state = (.error reason, later)) :
    (tryCatch first handle).run.run state = (handle reason).run.run later := by
  rw [ExceptT.run_tryCatch, StateT.run_bind, h]
  rfl

/-- A step that only looks at the state. -/
lemma run_get_bind {next : σ → ExceptT ε (StateM σ) β} {state : σ} :
    (get >>= next).run.run state = (next state).run.run state :=
  rfl

end State

/-! ## Checked sums -/

/-- A checked sum is the sum, and it fits. -/
lemma checkedAdd_eq_ok {a b sum : UInt32} :
    checkedAdd a b = .ok sum ↔ a.toNat + b.toNat < UInt32.size ∧ a + b = sum := by
  by_cases h : a.toNat + b.toNat < UInt32.size
  · simp [checkedAdd, h]
  · simp [checkedAdd, h]

/-- A checked sum that does not fit is the one fault of addition. -/
lemma checkedAdd_eq_error {a b : UInt32} {fault : Fault} :
    checkedAdd a b = .error fault ↔
      fault = .additionOverflow ∧ UInt32.size ≤ a.toNat + b.toNat := by
  by_cases h : a.toNat + b.toNat < UInt32.size
  · simp [checkedAdd, h]
  · simp [checkedAdd, h, Nat.not_lt.mp h, eq_comm]

/-- The next number after one that is written as a natural number. -/
lemma checkedAdd_ofNat_one {n : Nat} (h : n + 1 < UInt32.size) :
    checkedAdd (UInt32.ofNat n) 1 = .ok (UInt32.ofNat (n + 1)) := by
  have hn : (UInt32.ofNat n).toNat = n := UInt32.toNat_ofNat_of_lt' (Nat.lt_of_succ_lt h)
  rw [checkedAdd_of_lt (by rw [hn]; exact h), UInt32.ofNat_add]
  rfl

end Retrieval

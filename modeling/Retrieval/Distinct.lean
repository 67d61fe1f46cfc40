/-!
# Distinct elements

`distinct` lists each element of a list once, where it stands first.
-/

namespace Retrieval

/-- The elements of a list in the order of their first occurrences. -/
def distinct {α : Type} [DecidableEq α] : List α → List α
  | [] => []
  | item :: rest => item :: (distinct rest).filter (· ≠ item)

variable {α : Type} [DecidableEq α]

@[simp]
theorem mem_distinct {item : α} {items : List α} : item ∈ distinct items ↔ item ∈ items := by
  induction items with
  | nil => simp [distinct]
  | cons first rest ih =>
    simp only [distinct, List.mem_cons, List.mem_filter, ih]
    grind

theorem nodup_distinct (items : List α) : (distinct items).Nodup := by
  induction items with
  | nil => simp [distinct]
  | cons first rest ih =>
    simp only [distinct, List.nodup_cons, List.mem_filter]
    exact ⟨by simp, ih.filter _⟩

/-- Of the elements of a second list only those are new that the first does not hold. -/
theorem distinct_append (items more : List α) :
    distinct (items ++ more) = distinct items ++ (distinct more).filter (· ∉ items) := by
  induction items with
  | nil =>
    have hall : (distinct more).filter (· ∉ []) = distinct more := by
      rw [List.filter_eq_self]
      simp
    rw [hall]
    rfl
  | cons first rest ih =>
    simp only [List.cons_append, distinct, ih, List.filter_append, List.filter_filter]
    congr 2
    refine List.filter_congr fun item _ => ?_
    simp only [List.mem_cons, not_or, Bool.decide_and]

theorem distinct_append_singleton (items : List α) (item : α) :
    distinct (items ++ [item])
      = if item ∈ items then distinct items else distinct items ++ [item] := by
  rw [distinct_append]
  by_cases h : item ∈ items
  · simp [distinct, h]
  · simp [distinct, h]

end Retrieval

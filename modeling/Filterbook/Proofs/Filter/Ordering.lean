import Filterbook.Proofs.Filter.Reached
import Filterbook.Proofs.Value.Place

/-!
# Comparisons as an order

Five comparators ask how a stored value is ordered against the operand. On a row where the path reaches
one value they answer together, as one order of two things does, or, when the value cannot be compared
with the operand, none of them holds.

## What is proved

* `Filter.ordersAs_of_compares`: the five comparisons answer as the order of two things, when that is how
  the stored value compares with the operand.
* `Filter.holds_of_order?_eq_none`: none of them holds of a value that does not compare.
* `Filter.holds_eq_iff`: equality holds of a value that compares as equal, and of no other.
-/

namespace Filterbook

namespace Value

variable (s : String)

theorem order?_date (d : Calendar.Date) :
    order? (.str s) (.date d) = (leadingDate? s).map (·.order d) := rfl

theorem order?_dateTime (t : Calendar.DateTime) :
    order? (.str s) (.dateTime t) = (readDateTime s).toOption.map (·.order t) := rfl

theorem order?_time (t : Calendar.TimeOfDay) :
    order? (.str s) (.time t) = (readTime? s).map (·.order t) := rfl

end Value

namespace Filter

/-- The comparators that ask for an order. -/
def orderings : List Comparator := [.eq, .lt, .lte, .gt, .gte]

/-- On the row, the comparisons of the path with the operand answer as the order of two things says. -/
structure OrdersAs [Number.DecimalReader] {α : Type} [LT α] [LE α] (path : String) (operand : Value) (row : Json) (a b : α) :
    Prop where
  /-- Equal. -/
  eq : (leaf .eq path operand).holds row = true ↔ a = b
  /-- Less. -/
  lt : (leaf .lt path operand).holds row = true ↔ a < b
  /-- Less or equal. -/
  lte : (leaf .lte path operand).holds row = true ↔ a ≤ b
  /-- Greater. -/
  gt : (leaf .gt path operand).holds row = true ↔ b < a
  /-- Greater or equal. -/
  gte : (leaf .gte path operand).holds row = true ↔ b ≤ a

variable {path : String} {operand : Value} {row stored : Json}

/-- **The comparisons answer as an order does**: the order in which the stored value and the operand
compare. -/
theorem ordersAs_of_compares [Number.DecimalReader] {α : Type} [LinearOrder α] {a b : α} {o : Ordering}
    (hreach : row.reach path = [stored]) (hnull : operand ≠ .null)
    (horder : Value.order? stored operand = some o) (h : o.Compares a b) :
    OrdersAs path operand row a b := by
  have hholds := holds_of_reach hreach hnull
  constructor
  · rw [hholds, ← h.eq_eq]
    simp [Comparator.finds, Comparator.usesPattern, Comparator.holds, horder]
  · rw [hholds, ← h.eq_lt]
    simp [Comparator.finds, Comparator.usesPattern, Comparator.holds, horder]
  · rw [hholds, ← h.ne_gt]
    cases o <;> simp [Comparator.finds, Comparator.usesPattern, Comparator.holds, horder]
  · rw [hholds, ← h.eq_gt]
    simp [Comparator.finds, Comparator.usesPattern, Comparator.holds, horder]
  · rw [hholds, ← h.ne_lt]
    cases o <;> simp [Comparator.finds, Comparator.usesPattern, Comparator.holds, horder]

/-- **None of the comparisons holds** of a value that does not compare with the operand. -/
theorem holds_of_order?_eq_none [Number.DecimalReader] {c : Comparator} (hreach : row.reach path = [stored])
    (hnull : operand ≠ .null) (hc : c ∈ orderings) (horder : Value.order? stored operand = none) :
    (leaf c path operand).holds row = false := by
  rw [holds_of_reach hreach hnull]
  simp only [orderings, List.mem_cons, List.not_mem_nil, or_false] at hc
  rcases hc with rfl | rfl | rfl | rfl | rfl <;>
    simp [Comparator.finds, Comparator.usesPattern, Comparator.holds, horder]

/-- Equality holds of a value that compares as equal, and of no other. -/
theorem holds_eq_iff [Number.DecimalReader] (hreach : row.reach path = [stored]) (hnull : operand ≠ .null) :
    (leaf .eq path operand).holds row = true ↔ Value.order? stored operand = some .eq := by
  rw [holds_of_reach hreach hnull]
  exact beq_iff_eq

end Filter

end Filterbook

import Filterbook.Proofs.Clause.Order

/-!
# Empty groups

The check of the order looks at the two ends of a list of clauses and at neighbours; the compiler goes by
groups, the pieces between separators. This module says what each error of the check means for the groups,
so that an error names the empty group that it is about.

## What is proved

* `head?_splitOnP_iff`, `getLast?_splitOnP_iff`, `nil_mem_innerPieces_iff`: what an empty piece at an
  end, or between two others, says about separators.
* `sequenceError?_eq_some_iff`: an error is reported when its rule is broken and no earlier one is.
* `errors_name_empty_groups`: every outcome of the check by the groups, for a list of any length.
-/

namespace Filterbook

/-! ### Pieces at the end and between others -/

/-- The pieces that are neither the first nor the last. -/
def innerPieces {α : Type} (pieces : List (List α)) : List (List α) := pieces.tail.dropLast

variable {α : Type} {p : α → Bool} {xs : List α}

/-- A list is cut into one empty piece when there is nothing in it. -/
theorem splitOnP_eq_singleton_nil_iff : xs.splitOnP p = [[]] ↔ xs = [] := by
  cases xs with
  | nil => simp
  | cons x xs =>
    obtain ⟨first, rest, hcut⟩ := List.exists_cons_of_ne_nil (List.splitOnP_ne_nil p xs)
    rw [List.splitOnP_cons_eq_if_modifyHead, hcut]
    cases p x <;> simp

/-- The last piece is empty when there is nothing after the last cut. -/
theorem getLast?_splitOnP_iff :
    (xs.splitOnP p).getLast? = some [] ↔ xs = [] ∨ [true] <:+ xs.map p := by
  induction xs with
  | nil => simp
  | cons x xs ih =>
    obtain ⟨first, rest, hcut⟩ := List.exists_cons_of_ne_nil (List.splitOnP_ne_nil p xs)
    rw [hcut] at ih
    rw [List.splitOnP_cons_eq_if_modifyHead, List.map_cons, List.suffix_cons_iff, hcut]
    cases hx : p x with
    | true =>
      rw [if_pos rfl, List.getLast?_cons_cons, ih]
      simp [eq_comm]
    | false =>
      cases rest with
      | nil =>
        -- one piece means no cut, so the piece that grows is not followed by one
        have hlast : ¬ [true] <:+ xs.map p := by
          intro h
          have hfirst : first = [] := by simpa using ih.mpr (.inr h)
          obtain rfl : xs = [] := splitOnP_eq_singleton_nil_iff.mp (hfirst ▸ hcut)
          simp at h
        simp [hlast]
      | cons next rest =>
        have hxs : xs ≠ [] := by
          rintro rfl
          simp at hcut
        simpa [hxs] using ih

/-- A piece between two others is empty when two cuts stand side by side. -/
theorem nil_mem_innerPieces_iff :
    [] ∈ innerPieces (xs.splitOnP p) ↔ [true, true] <:+: xs.map p := by
  induction xs with
  | nil => simp [innerPieces]
  | cons x xs ih =>
    obtain ⟨first, rest, hcut⟩ := List.exists_cons_of_ne_nil (List.splitOnP_ne_nil p xs)
    rw [List.splitOnP_cons_eq_if_modifyHead, List.map_cons, List.infix_cons_iff, ← ih, hcut]
    cases hx : p x with
    | false => simp [innerPieces, List.cons_prefix_cons]
    | true =>
      -- what was the first piece before lies between two others now, unless it is the last one
      have hfirst : first = [] ↔ xs = [] ∨ [true] <+: xs.map p := by
        rw [← head?_splitOnP_iff, hcut]
        simp
      have hnil : xs = [] ↔ first = [] ∧ rest = [] := by
        rw [← splitOnP_eq_singleton_nil_iff (p := p), hcut]
        simp
      rw [if_pos rfl, List.cons_prefix_cons, eq_self, true_and]
      cases rest with
      | nil =>
        have hfront : ¬ [true] <+: xs.map p := by
          intro h
          obtain rfl : xs = [] := hnil.mpr ⟨hfirst.mpr (.inr h), rfl⟩
          simp at h
        simp [innerPieces, hfront]
      | cons next rest =>
        have hxs : xs ≠ [] := fun h => List.cons_ne_nil _ _ (hnil.mp h).2
        have hfront : [true] <+: xs.map p ↔ [] = first := by rw [eq_comm, hfirst, or_iff_right hxs]
        rw [hfront]
        exact List.mem_cons

/-! ### Which error is reported -/

/-- The rules that come before a rule. -/
def SequenceError.earlier (rule : SequenceError) : List SequenceError := rules.takeWhile (· ≠ rule)

/-- An error is reported when its rule is broken and none that comes before it. -/
theorem sequenceError?_eq_some_iff {marks : List Bool} {rule : SequenceError} :
    sequenceError? marks = some rule ↔
      (∀ other ∈ rule.earlier, ¬ other.Broken marks) ∧ rule.Broken marks := by
  rw [sequenceError?_eq_firstBroken?]
  cases rule <;> simp [firstBroken?, SequenceError.rules, SequenceError.earlier, and_assoc]

/-- **Every outcome of the check by the groups**, the pieces between two separators, of which a list
without clauses has an empty one. A list passes when no group is empty. Otherwise the error is that there is
no clause, or that the first group is empty, or that the last one is, or that a group between these is;
of several, the first one here. -/
theorem errors_name_empty_groups (p : α → Bool) (xs : List α) :
    (sequenceError? (xs.map p) = none ↔ ∀ group ∈ xs.splitOnP p, group ≠ []) ∧
      (sequenceError? (xs.map p) = some .atLeastOneRequired ↔ xs = []) ∧
      (xs = [] ↔ xs.splitOnP p = [[]]) ∧
      (sequenceError? (xs.map p) = some .leadingSeparator ↔
        xs ≠ [] ∧ (xs.splitOnP p).head? = some []) ∧
      (sequenceError? (xs.map p) = some .trailingSeparator ↔
        (xs.splitOnP p).head? ≠ some [] ∧ (xs.splitOnP p).getLast? = some []) ∧
      (sequenceError? (xs.map p) = some .consecutiveSeparators ↔
        (xs.splitOnP p).head? ≠ some [] ∧ (xs.splitOnP p).getLast? ≠ some [] ∧
          [] ∈ innerPieces (xs.splitOnP p)) := by
  refine ⟨sequenceError?_eq_none_iff, ?_, splitOnP_eq_singleton_nil_iff.symm, ?_⟩
  · rw [sequenceError?_eq_some_iff]
    simp [SequenceError.earlier, SequenceError.rules, SequenceError.Broken]
  · by_cases hxs : xs = []
    · subst hxs
      simp [sequenceError?]
    · simp only [sequenceError?_eq_some_iff, ne_eq, head?_splitOnP_iff, getLast?_splitOnP_iff,
        nil_mem_innerPieces_iff]
      -- both sides are the rules in their order
      simp [SequenceError.earlier, SequenceError.rules, SequenceError.Broken, hxs, and_assoc]

example :
    "a||b".toList.splitOnP (· == '|') = [['a'], [], ['b']] ∧
      sequenceError? ("a||b".toList.map (· == '|')) = some .consecutiveSeparators := by decide

end Filterbook

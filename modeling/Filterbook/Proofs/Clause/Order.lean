import Filterbook.Clause.Sequence
import Mathlib.Data.List.Infix

/-!
# The rules of order

The order of clauses is checked by four rules, of which the first broken one is reported. This module
says what each rule forbids (`SequenceError.Broken`), apart from how the check looks for it, and what
the four of them mean together: cut a list at its separators, and no piece is empty.

## What is proved

* `sequenceError?_eq_firstBroken?`: the check reports the first broken rule.
* `sequenceError?_eq_none_iff`: no rule is broken exactly when every piece between two separators has a
  clause in it.
-/

namespace Filterbook

/-! ### What the rules forbid -/

namespace SequenceError

/-- The rules, in the order in which they are reported. -/
def rules : List SequenceError :=
  [atLeastOneRequired, leadingSeparator, trailingSeparator, consecutiveSeparators]

/-- A list of clauses, of which `true` marks the separators, breaks a rule. -/
def Broken (marks : List Bool) : SequenceError → Prop
  | atLeastOneRequired => marks = []
  | leadingSeparator => [true] <+: marks
  | trailingSeparator => [true] <:+ marks
  | consecutiveSeparators => [true, true] <:+: marks

instance (marks : List Bool) : DecidablePred (Broken marks)
  | atLeastOneRequired => inferInstanceAs (Decidable (marks = []))
  | leadingSeparator => inferInstanceAs (Decidable ([true] <+: marks))
  | trailingSeparator => inferInstanceAs (Decidable ([true] <:+ marks))
  | consecutiveSeparators => inferInstanceAs (Decidable ([true, true] <:+: marks))

theorem mem_rules (rule : SequenceError) : rule ∈ rules := by
  cases rule <;> simp [rules]

end SequenceError

/-- The first of the rules that a list of clauses breaks. -/
def firstBroken? (marks : List Bool) : Option SequenceError :=
  SequenceError.rules.find? fun rule => decide (rule.Broken marks)

theorem firstBroken?_eq_none_iff {marks : List Bool} :
    firstBroken? marks = none ↔ ∀ rule : SequenceError, ¬ rule.Broken marks := by
  rw [firstBroken?, List.find?_eq_none]
  simp [SequenceError.mem_rules]

theorem hasAdjacent_iff {marks : List Bool} : hasAdjacent marks = true ↔ [true, true] <:+: marks := by
  induction marks with
  | nil => simp [hasAdjacent]
  | cons mark marks ih =>
    rw [List.infix_cons_iff, ← ih]
    cases mark with
    | false => simp [hasAdjacent, List.cons_prefix_cons]
    | true =>
      cases marks with
      | nil => simp [hasAdjacent]
      | cons next marks => cases next <;> simp [hasAdjacent, List.cons_prefix_cons]

theorem head?_eq_true_iff {marks : List Bool} : marks.head? = some true ↔ [true] <+: marks := by
  cases marks <;> simp [List.cons_prefix_cons, eq_comm]

theorem getLast?_eq_true_iff {marks : List Bool} :
    marks.getLast? = some true ↔ [true] <:+ marks := by
  rw [List.getLast?_eq_some_iff]
  exact ⟨fun ⟨before, h⟩ => ⟨before, h.symm⟩, fun ⟨before, h⟩ => ⟨before, h.symm⟩⟩

/-- **The check reports the first broken rule.** -/
theorem sequenceError?_eq_firstBroken? (marks : List Bool) :
    sequenceError? marks = firstBroken? marks := by
  simp only [sequenceError?, firstBroken?, List.isEmpty_iff, head?_eq_true_iff, getLast?_eq_true_iff,
    hasAdjacent_iff, SequenceError.rules, List.find?_cons, List.find?_nil, SequenceError.Broken]
  -- the rules one after another, as the check takes them
  by_cases hnone : marks = []
  · simp [hnone]
  by_cases hfirst : [true] <+: marks
  · simp [hnone, hfirst]
  by_cases hlast : [true] <:+ marks
  · simp [hnone, hfirst, hlast]
  by_cases hpair : [true, true] <:+: marks
  · simp [hnone, hfirst, hlast, hpair]
  · simp [hnone, hfirst, hlast, hpair]

/-! ### Pieces between separators -/

variable {α : Type} {p : α → Bool}

/-- No piece holds an element at which the list is cut. -/
theorem eq_false_of_mem_piece {xs piece : List α} (hpiece : piece ∈ xs.splitOnP p) :
    ∀ x ∈ piece, p x = false := by
  induction xs generalizing piece with
  | nil =>
    rw [List.splitOnP_nil, List.mem_singleton] at hpiece
    simp [hpiece]
  | cons x xs ih =>
    obtain ⟨first, rest, hcut⟩ := List.exists_cons_of_ne_nil (List.splitOnP_ne_nil p xs)
    rw [List.splitOnP_cons_eq_if_modifyHead, hcut] at hpiece
    rw [hcut] at ih
    split at hpiece
    · rcases List.mem_cons.mp hpiece with rfl | hpiece
      · simp
      · exact ih hpiece
    · next hx =>
      rcases List.mem_cons.mp hpiece with rfl | hpiece
      · rw [List.forall_mem_cons]
        exact ⟨by simpa using hx, ih (List.mem_cons_self ..)⟩
      · exact ih (List.mem_cons_of_mem _ hpiece)

/-- There is one piece more than there are elements at which the list is cut. -/
theorem length_splitOnP (xs : List α) : (xs.splitOnP p).length = xs.countP p + 1 := by
  induction xs with
  | nil => rfl
  | cons x xs ih =>
    rw [List.splitOnP_cons_eq_if_modifyHead, List.countP_cons]
    split
    · rw [List.length_cons, ih]
    · rw [List.length_modifyHead, ih, Nat.add_zero]

/-- The first piece is empty when there is nothing before the first cut. -/
theorem head?_splitOnP_iff {xs : List α} :
    (xs.splitOnP p).head? = some [] ↔ xs = [] ∨ [true] <+: xs.map p := by
  cases xs with
  | nil => simp
  | cons x xs =>
    obtain ⟨first, rest, hcut⟩ := List.exists_cons_of_ne_nil (List.splitOnP_ne_nil p xs)
    rw [List.splitOnP_cons_eq_if_modifyHead, hcut]
    cases hx : p x <;> simp [hx, List.cons_prefix_cons]

/-- A later piece is empty when a cut comes last or after another. -/
theorem nil_mem_tail_splitOnP_iff {xs : List α} :
    [] ∈ (xs.splitOnP p).tail ↔ [true] <:+ xs.map p ∨ [true, true] <:+: xs.map p := by
  induction xs with
  | nil => simp
  | cons x xs ih =>
    obtain ⟨first, rest, hcut⟩ := List.exists_cons_of_ne_nil (List.splitOnP_ne_nil p xs)
    rw [List.splitOnP_cons_eq_if_modifyHead, List.map_cons, List.suffix_cons_iff, List.infix_cons_iff]
    cases hx : p x with
    | false =>
      simp only [hcut, List.tail_cons] at ih
      simp [hcut, ih, List.cons_prefix_cons]
    | true =>
      -- what was the first piece before is a later one now
      have hfirst : first = [] ↔ xs.map p = [] ∨ [true] <+: xs.map p := by
        rw [List.map_eq_nil_iff, ← head?_splitOnP_iff, hcut]
        simp
      have hrest : [] ∈ (xs.splitOnP p).tail ↔ [] ∈ rest := by rw [hcut, List.tail_cons]
      rw [if_pos rfl, List.tail_cons, hcut, List.mem_cons, eq_comm, hfirst, ← hrest, ih,
        List.cons_prefix_cons, List.cons.injEq]
      simp only [true_and, eq_comm (a := ([] : List Bool))]
      exact or_or_or_comm

/-- **No rule is broken exactly when no piece between two separators is empty.** -/
theorem sequenceError?_eq_none_iff {xs : List α} :
    sequenceError? (xs.map p) = none ↔ ∀ piece ∈ xs.splitOnP p, piece ≠ [] := by
  have hpieces : (∀ piece ∈ xs.splitOnP p, piece ≠ []) ↔
      (xs.splitOnP p).head? ≠ some [] ∧ [] ∉ (xs.splitOnP p).tail := by
    obtain ⟨first, rest, hcut⟩ := List.exists_cons_of_ne_nil (List.splitOnP_ne_nil p xs)
    rw [hcut, List.forall_mem_cons, List.head?_cons, List.tail_cons, Ne, Ne, Option.some.injEq]
    exact and_congr_right fun _ => List.forall_mem_ne'
  rw [hpieces, Ne, head?_splitOnP_iff, nil_mem_tail_splitOnP_iff,
    sequenceError?_eq_firstBroken?, firstBroken?_eq_none_iff]
  constructor
  · intro h
    exact ⟨not_or.mpr ⟨fun hnil => h .atLeastOneRequired (List.map_eq_nil_iff.mpr hnil),
      h .leadingSeparator⟩, not_or.mpr ⟨h .trailingSeparator, h .consecutiveSeparators⟩⟩
  · rintro ⟨hfirst, hlater⟩ rule
    rw [not_or] at hfirst hlater
    cases rule with
    | atLeastOneRequired => exact fun hnil => hfirst.1 (List.map_eq_nil_iff.mp hnil)
    | leadingSeparator => exact hfirst.2
    | trailingSeparator => exact hlater.1
    | consecutiveSeparators => exact hlater.2

end Filterbook

import Filterbook.Filter.Compilation
import Filterbook.Proofs.Filter.Combinators

/-!
# What a compiled list of clauses means

Compilation reads a list of clauses once, with the filters of the finished groups and the conjunction
of the current one at hand, and simplifies as it goes. Beside it stands the plain reading: cut the list
at its separators (`List.splitOnP`); a row is selected when all comparisons of some piece hold, each
inverted when its own clause is negated (`Comparison.holds`).

## What is proved

* `foldl_add_holds`: what the accumulator stands for at every point of the list, the comparisons of
  the current group being those read since the last separator.
* `compile_holds_iff`: the compiled filter and the plain reading agree on every row, for every list,
  also one with separators at the ends or side by side.
-/

namespace Filterbook

/-! ### One comparison -/

namespace Operator

/-- How an operator compares. The operators without a value are equalities. -/
def comparator : Operator → Comparator
  | exact | isNull | isEmpty | isTrue | isFalse => .eq
  | iexact => .ieq
  | contains => .contains
  | icontains => .icontains
  | regex => .regex
  | iregex => .iregex
  | lt => .lt
  | gt => .gt
  | lte => .lte
  | gte => .gte

/-- What an operator compares with: a value of its own, or the operand of the clause. -/
def comparand (o : Operator) (operand : Value) : Value :=
  match o with
  | isNull => .null
  | isEmpty => .text ""
  | isTrue => .bool true
  | isFalse => .bool false
  | _ => operand

theorem comparison_eq_leaf (o : Operator) (path : String) (operand : Value) :
    o.comparison path operand = .leaf o.comparator path (o.comparand operand) := by
  cases o <;> rfl

end Operator

/-- A comparison holds of a row when its leaf does, or when its leaf does not and it is negated. -/
def Comparison.holds (row : Json) (c : Comparison) : Bool :=
  let plain := Filter.leafHolds c.operator.comparator c.path (c.operator.comparand c.value) row
  if c.negate then !plain else plain

theorem Comparison.filter_holds (row : Json) (c : Comparison) : c.filter.holds row = c.holds row := by
  simp only [filter, holds, Operator.comparison_eq_leaf]
  cases c.negate with
  | true => simp [Filter.holds_negation]
  | false => simp

/-! ### Groups -/

/-- All comparisons of a group hold of a row. -/
def GroupHolds (row : Json) (group : List Checked) : Prop :=
  ∀ c, .comparison c ∈ group → c.holds row = true

theorem groupHolds_nil (row : Json) : GroupHolds row [] := fun _ h => nomatch h

theorem groupHolds_cons (row : Json) (c : Comparison) (group : List Checked) :
    GroupHolds row (.comparison c :: group) ↔ c.holds row = true ∧ GroupHolds row group := by
  constructor
  · intro h
    exact ⟨h c (List.mem_cons_self ..), fun d hd => h d (List.mem_cons_of_mem _ hd)⟩
  · rintro ⟨hc, hg⟩ d hd
    rcases List.mem_cons.mp hd with hd | hd
    · rw [Checked.comparison.injEq] at hd
      exact hd ▸ hc
    · exact hg d hd

theorem groupHolds_reverse (row : Json) (group : List Checked) :
    GroupHolds row group.reverse ↔ GroupHolds row group := by
  simp only [GroupHolds, List.mem_reverse]

/-- The filter of what was read holds when the current group does or a finished one. -/
theorem Grouping.filter_holds (row : Json) (g : Grouping) :
    g.filter.holds row = true ↔
      (∃ f ∈ g.finished, f.holds row = true) ∨ g.current.holds row = true := by
  obtain ⟨finished, current⟩ := g
  unfold Grouping.filter
  cases finished with
  | nil => simp
  | cons f fs =>
    simp only [List.isEmpty_cons, Bool.false_eq_true, if_false]
    rw [Filter.holds_disjunction row (by simp)]
    constructor
    · rintro ⟨d, hd, h⟩
      rw [List.mem_reverse, List.mem_cons] at hd
      rcases hd with rfl | hd
      · exact .inr h
      · exact .inl ⟨d, hd, h⟩
    · rintro (⟨d, hd, h⟩ | h)
      · exact ⟨d, List.mem_reverse.mpr (List.mem_cons_of_mem _ hd), h⟩
      · exact ⟨current, List.mem_reverse.mpr (List.mem_cons_self ..), h⟩

/-- **The loop of the compiler**: where the current filter stands for the comparisons read since the
last separator (`latest`, the last one first), going on through `cs` gives a filter that holds when a
finished filter does or some group of what is to come, the current group completed. -/
theorem foldl_add_holds (row : Json) (cs : List Checked) :
    ∀ (g : Grouping) (latest : List Checked), (g.current.holds row = true ↔ GroupHolds row latest) →
      ((cs.foldl Grouping.add g).filter.holds row = true ↔
        (∃ f ∈ g.finished, f.holds row = true) ∨
          ∃ group ∈ List.splitOnPPrepend Checked.isSeparator cs latest, GroupHolds row group) := by
  induction cs with
  | nil =>
    intro g latest hg
    rw [List.foldl_nil, Grouping.filter_holds, hg]
    simp [groupHolds_reverse]
  | cons c cs ih =>
    intro g latest hg
    rw [List.foldl_cons]
    cases c with
    | separator =>
      -- the current group is finished, and a new one starts out empty
      rw [ih _ [] (iff_of_true (Filter.holds_always row) (groupHolds_nil row)),
        List.splitOnPPrepend_cons_pos rfl]
      simp only [Grouping.add, List.mem_cons, exists_eq_or_imp, hg, groupHolds_reverse,
        List.splitOnPPrepend_nil_right]
      rw [or_comm (a := GroupHolds row latest), or_assoc]
    | comparison c =>
      have hc : (g.add (.comparison c)).current.holds row = true ↔
          GroupHolds row (.comparison c :: latest) := by
        rw [Grouping.add, Filter.holds_andThen, Comparison.filter_holds, hg, groupHolds_cons,
          and_comm]
      rw [ih _ _ hc, List.splitOnPPrepend_cons_neg rfl]
      rfl

/-- **What joining keeps**: what holds of the filter of every comparison of a list, and is kept where
filters are joined, holds of the compiled filter. -/
theorem compile_induction {P : Filter → Prop} (always : P .always)
    (andThen : ∀ {f g}, P f → P g → P (f.andThen g))
    (disjunction : ∀ {fs}, (∀ f ∈ fs, P f) → P (.disjunction fs)) {clauses : List Checked}
    (comparison : ∀ c, .comparison c ∈ clauses → P c.filter) : P (compile clauses) := by
  suffices hloop : ∀ g : Grouping, P g.current → (∀ f ∈ g.finished, P f) →
      P (clauses.foldl Grouping.add g).filter from
    hloop {} always (List.forall_mem_nil _)
  -- the current filter and the finished ones have the property at every point of the list
  induction clauses with
  | nil =>
    intro g hcurrent hfinished
    rw [List.foldl_nil, Grouping.filter]
    split
    · exact hcurrent
    · refine disjunction fun f hf => ?_
      rcases List.mem_cons.mp (List.mem_reverse.mp hf) with rfl | hf
      · exact hcurrent
      · exact hfinished f hf
  | cons c cs ih =>
    intro g hcurrent hfinished
    rw [List.foldl_cons]
    have hcs : ∀ d, .comparison d ∈ cs → P d.filter :=
      fun d hd => comparison d (List.mem_cons_of_mem _ hd)
    cases c with
    | separator => exact ih hcs _ always (List.forall_mem_cons.mpr ⟨hcurrent, hfinished⟩)
    | comparison c =>
      exact ih hcs _ (andThen hcurrent (comparison c (List.mem_cons_self ..))) hfinished

/-- **A compiled list selects a row when some group does**: cut the list at its separators; all
comparisons of one piece must hold. So a list with an empty piece selects every row. -/
theorem compile_holds_iff (clauses : List Checked) (row : Json) :
    ((compile clauses).holds row = true ↔
        ∃ group ∈ clauses.splitOnP Checked.isSeparator,
          ∀ c, .comparison c ∈ group → c.holds row = true) ∧
      ([] ∈ clauses.splitOnP Checked.isSeparator → (compile clauses).holds row = true) := by
  have hiff : (compile clauses).holds row = true ↔
      ∃ group ∈ clauses.splitOnP Checked.isSeparator, GroupHolds row group := by
    have hstart := iff_of_true (Filter.holds_always row) (groupHolds_nil row)
    rw [compile, foldl_add_holds row clauses {} [] hstart, List.splitOnPPrepend_nil_right]
    simp
  exact ⟨hiff, fun h => hiff.mpr ⟨[], h, groupHolds_nil row⟩⟩

end Filterbook

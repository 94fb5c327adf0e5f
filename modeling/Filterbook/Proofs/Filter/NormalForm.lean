import Filterbook.Proofs.Clause.Order
import Filterbook.Proofs.Filter.Compilation

/-!
# The form of a compiled filter

A compiled list of clauses is a disjunction of conjunctions of comparisons, some of them negated. The
joining functions leave out filters that hold always and drop brackets around a single filter, so it
is not plain that every clause is still there. This module reads a compiled filter back: its groups,
the literals of each group, and of each literal the clause that it came from.

## What is proved

* `compile_eq`: for every list of clauses, the loop of the compiler builds what the joining functions
  build of the pieces between two separators.
* `compile_keeps_every_clause`: when no rule of order is broken, the filter has two levels, and its
  literals, from left to right, are the comparisons of the list; so no row is selected for want of a
  clause.
-/

namespace Filterbook

namespace Filter

/-! ### Two levels -/

/-- A comparison, or the negation of one. -/
inductive IsLiteral : Filter → Prop where
  /-- A comparison. -/
  | leaf (c : Comparator) (path : String) (operand : Value) : IsLiteral (leaf c path operand)
  /-- A negated comparison. -/
  | not (c : Comparator) (path : String) (operand : Value) : IsLiteral (not (leaf c path operand))

/-- A literal, or a conjunction of at least two. -/
inductive IsGroup : Filter → Prop where
  /-- A literal by itself. -/
  | literal {f : Filter} (h : f.IsLiteral) : IsGroup f
  /-- Several literals. -/
  | all {fs : List Filter} (hlen : 2 ≤ fs.length) (h : ∀ f ∈ fs, f.IsLiteral) : IsGroup (all fs)

/-- A group, or a disjunction of at least two. -/
inductive IsTwoLevel : Filter → Prop where
  /-- A group by itself. -/
  | group {f : Filter} (h : f.IsGroup) : IsTwoLevel f
  /-- Several groups. -/
  | any {fs : List Filter} (hlen : 2 ≤ fs.length) (h : ∀ f ∈ fs, f.IsGroup) : IsTwoLevel (any fs)

/-- The members of a disjunction; any other filter is the only member. -/
def groups : Filter → List Filter
  | any fs => fs
  | f => [f]

/-- The members of a conjunction; any other filter is the only member. -/
def literals : Filter → List Filter
  | all fs => fs
  | f => [f]

variable {f g : Filter} {fs : List Filter}

theorem IsLiteral.ne_always (h : f.IsLiteral) : f ≠ always := by cases h <;> exact nofun

theorem IsLiteral.ne_all (h : f.IsLiteral) : ∀ fs, f ≠ all fs := by cases h <;> exact nofun

theorem IsLiteral.literals_eq (h : f.IsLiteral) : f.literals = [f] := by cases h <;> rfl

theorem IsGroup.ne_always (h : f.IsGroup) : f ≠ always := by
  cases h with
  | literal h => exact h.ne_always
  | all => exact nofun

theorem IsGroup.ne_any (h : f.IsGroup) : ∀ fs, f ≠ any fs := by
  cases h with
  | literal h => cases h <;> exact nofun
  | all => exact nofun

theorem IsGroup.groups_eq (h : f.IsGroup) : f.groups = [f] := by
  cases h with
  | literal h => cases h <;> rfl
  | all => rfl

theorem IsTwoLevel.ne_always (h : f.IsTwoLevel) : f ≠ always := by
  cases h with
  | group h => exact h.ne_always
  | any => exact nofun

/-- A filter of two levels is a disjunction when it has several groups. -/
theorem IsTwoLevel.exists_eq_any_iff (h : f.IsTwoLevel) :
    (∃ gs, f = .any gs) ↔ 2 ≤ f.groups.length := by
  cases h with
  | group h =>
    rw [h.groups_eq]
    exact iff_of_false (fun ⟨gs, hgs⟩ => h.ne_any gs hgs) (by simp)
  | any hlen => exact iff_of_true ⟨_, rfl⟩ hlen

theorem leaves_eq_flatMap_groups (f : Filter) : f.leaves = f.groups.flatMap leaves := by
  cases f with
  | any fs => rw [leaves, leavesOf_eq_flatMap, groups]
  | always | leaf | all | not => rw [groups] <;> simp

theorem leaves_eq_flatMap_literals (f : Filter) : f.leaves = f.literals.flatMap leaves := by
  cases f with
  | all fs => rw [leaves, leavesOf_eq_flatMap, literals]
  | always | leaf | any | not => rw [literals] <;> simp

/-! ### Conjunctions of literals -/

theorem conjunction_singleton (f : Filter) : conjunction [f] = f := by
  cases f <;> rfl

theorem conjunction_of_two_le (hlen : 2 ≤ fs.length) (h : ∀ f ∈ fs, f ≠ always) :
    conjunction fs = all fs := by
  have hself : fs.filter (fun f => !f.isAlways) = fs := by
    rw [List.filter_eq_self]
    intro f hf
    simpa [← isAlways_iff] using h f hf
  rw [conjunction, hself]
  match fs, hlen with
  | _ :: _ :: _, _ => rfl

/-- A conjunction of literals takes one more literal in at its end. -/
theorem andThen_conjunction (hfs : ∀ f ∈ fs, f.IsLiteral) (hg : g.IsLiteral) :
    (conjunction fs).andThen g = conjunction (fs ++ [g]) := by
  have hne : ∀ f ∈ fs ++ [g], f ≠ always := by
    intro f hf
    rw [List.mem_append, List.mem_singleton] at hf
    rcases hf with hf | rfl
    · exact (hfs f hf).ne_always
    · exact hg.ne_always
  match fs with
  | [] => exact (conjunction_singleton g).symm
  | [f] =>
    have hf : f.IsLiteral := hfs f (List.mem_singleton_self f)
    rw [conjunction_singleton, andThen_of_ne hf.ne_always hf.ne_all hg.ne_always,
      conjunction_of_two_le (by simp) hne]
    rfl
  | f :: f' :: fs =>
    rw [conjunction_of_two_le (by simp) fun f hf => (hfs f hf).ne_always,
      conjunction_of_two_le (by simp) hne, all_andThen _ hg.ne_always]

/-- Literals joined are a group, and they are its literals. -/
theorem isGroup_conjunction (hfs : fs ≠ []) (h : ∀ f ∈ fs, f.IsLiteral) :
    (conjunction fs).IsGroup ∧ (conjunction fs).literals = fs := by
  match fs with
  | [] => exact absurd rfl hfs
  | [f] =>
    have hf : f.IsLiteral := h f (List.mem_singleton_self f)
    rw [conjunction_singleton]
    exact ⟨.literal hf, hf.literals_eq⟩
  | f :: f' :: fs =>
    rw [conjunction_of_two_le (by simp) fun f hf => (h f hf).ne_always]
    exact ⟨.all (by simp) h, rfl⟩

/-! ### Disjunctions of groups -/

theorem disjunction_singleton (f : Filter) : disjunction [f] = f := by
  cases f <;> rfl

theorem disjunction_of_two_le (hlen : 2 ≤ fs.length) (h : ∀ f ∈ fs, f ≠ always) :
    disjunction fs = any fs := by
  have hnone : fs.any isAlways = false := by
    rw [List.any_eq_false]
    intro f hf
    rw [isAlways_iff]
    exact h f hf
  match fs, hlen with
  | _ :: _ :: _, _ =>
    unfold disjunction
    rw [hnone]
    rfl

/-- Groups joined are two levels, and they are its groups. -/
theorem isTwoLevel_disjunction (hfs : fs ≠ []) (h : ∀ f ∈ fs, f.IsGroup) :
    (disjunction fs).IsTwoLevel ∧ (disjunction fs).groups = fs := by
  match fs with
  | [] => exact absurd rfl hfs
  | [f] =>
    have hf : f.IsGroup := h f (List.mem_singleton_self f)
    rw [disjunction_singleton]
    exact ⟨.group hf, hf.groups_eq⟩
  | f :: f' :: fs =>
    rw [disjunction_of_two_le (by simp) fun f hf => (h f hf).ne_always]
    exact ⟨.any (by simp) h, rfl⟩

end Filter

/-! ### Comparisons and their literals -/

/-- The literal of a comparison: its leaf, negated when the clause is. -/
def Comparison.literal (c : Comparison) : Filter :=
  let leaf := .leaf c.operator.comparator c.path (c.operator.comparand c.value)
  if c.negate then .not leaf else leaf

theorem Comparison.filter_eq_literal (c : Comparison) : c.filter = c.literal := by
  simp only [filter, literal, Operator.comparison_eq_leaf]
  rfl

theorem Comparison.isLiteral_literal (c : Comparison) : c.literal.IsLiteral := by
  unfold literal
  split
  · exact .not _ _ _
  · exact .leaf _ _ _

theorem Comparison.length_leaves_literal (c : Comparison) : c.literal.leaves.length = 1 := by
  unfold literal
  split <;> rfl

/-- The comparison of a clause, if it is one. -/
def Checked.comparison? : Checked → Option Comparison
  | .separator => none
  | .comparison c => some c

/-- The comparisons of a list of clauses, in order. -/
def comparisons (clauses : List Checked) : List Comparison := clauses.filterMap Checked.comparison?

/-- The literals of the comparisons of a list of clauses, in order. -/
def clauseLiterals (clauses : List Checked) : List Filter :=
  (comparisons clauses).map Comparison.literal

theorem isLiteral_of_mem_clauseLiterals {clauses : List Checked} :
    ∀ f ∈ clauseLiterals clauses, f.IsLiteral := by
  intro f hf
  obtain ⟨c, -, rfl⟩ := List.mem_map.mp hf
  exact c.isLiteral_literal

theorem clauseLiterals_append (clauses more : List Checked) :
    clauseLiterals (clauses ++ more) = clauseLiterals clauses ++ clauseLiterals more := by
  simp [clauseLiterals, comparisons]

theorem clauseLiterals_eq_nil_iff {clauses : List Checked} :
    clauseLiterals clauses = [] ↔ ∀ c ∈ clauses, c.isSeparator = true := by
  rw [clauseLiterals, List.map_eq_nil_iff, comparisons, List.filterMap_eq_nil_iff]
  refine forall₂_congr fun c _ => ?_
  cases c <;> simp [Checked.comparison?, Checked.isSeparator]

/-! ### The compiled filter -/

/-- What the loop has built is what the joining functions build of its groups, also when there is only
one. -/
theorem Grouping.filter_eq (g : Grouping) :
    g.filter = .disjunction (g.finished.reverse ++ [g.current]) := by
  obtain ⟨finished, current⟩ := g
  cases finished with
  | nil => exact (Filter.disjunction_singleton current).symm
  | cons f fs => simp [Grouping.filter]

/-- **The loop of the compiler**: where the current filter joins the literals read since the last
separator (`latest`, the last clause first), going on through `cs` joins the pieces still to come to
the finished groups. -/
theorem foldl_add_filter (cs : List Checked) : ∀ (g : Grouping) (latest : List Checked),
    g.current = .conjunction (clauseLiterals latest.reverse) →
    (cs.foldl Grouping.add g).filter =
      .disjunction (g.finished.reverse ++
        (cs.splitOnPPrepend Checked.isSeparator latest).map fun piece =>
          .conjunction (clauseLiterals piece)) := by
  induction cs with
  | nil =>
    intro g latest hg
    rw [List.foldl_nil, Grouping.filter_eq, hg]
    simp
  | cons c cs ih =>
    intro g latest hg
    rw [List.foldl_cons]
    cases c with
    | separator =>
      rw [ih _ [] rfl, List.splitOnPPrepend_cons_pos rfl]
      simp [Grouping.add, hg]
    | comparison c =>
      have hc : (g.add (.comparison c)).current =
          .conjunction (clauseLiterals (.comparison c :: latest).reverse) := by
        rw [Grouping.add, hg, Comparison.filter_eq_literal,
          Filter.andThen_conjunction isLiteral_of_mem_clauseLiterals c.isLiteral_literal,
          List.reverse_cons, clauseLiterals_append]
        rfl
      rw [ih _ _ hc, List.splitOnPPrepend_cons_neg rfl]
      rfl

/-- **What the compiler builds**: of every piece between two separators the conjunction of its
literals, and of these the disjunction. -/
theorem compile_eq (clauses : List Checked) :
    compile clauses = .disjunction ((clauses.splitOnP Checked.isSeparator).map fun piece =>
      .conjunction (clauseLiterals piece)) := by
  rw [compile, foldl_add_filter clauses {} [] rfl, List.splitOnPPrepend_nil_right]
  rfl

/-- A piece with a clause in it compiles to a group with the literals of the piece. -/
theorem isGroup_of_mem_piece {clauses piece : List Checked}
    (hpiece : piece ∈ clauses.splitOnP Checked.isSeparator) (hne : piece ≠ []) :
    (Filter.conjunction (clauseLiterals piece)).IsGroup ∧
      (Filter.conjunction (clauseLiterals piece)).literals = clauseLiterals piece := by
  refine Filter.isGroup_conjunction ?_ isLiteral_of_mem_clauseLiterals
  rw [Ne, clauseLiterals_eq_nil_iff]
  intro h
  obtain ⟨c, piece, rfl⟩ := List.exists_cons_of_ne_nil hne
  have hc := eq_false_of_mem_piece hpiece c (List.mem_cons_self ..)
  simp [h c (List.mem_cons_self ..)] at hc

/-- Cutting at the separators keeps the literals and their order. -/
theorem flatMap_clauseLiterals (clauses : List Checked) :
    (clauses.splitOnP Checked.isSeparator).flatMap clauseLiterals = clauseLiterals clauses := by
  induction clauses with
  | nil => rfl
  | cons c cs ih =>
    obtain ⟨first, rest, hcut⟩ :=
      List.exists_cons_of_ne_nil (List.splitOnP_ne_nil Checked.isSeparator cs)
    rw [List.splitOnP_cons_eq_if_modifyHead, hcut]
    rw [hcut, List.flatMap_cons] at ih
    cases c with
    | separator => exact ih
    | comparison c =>
      rw [← List.singleton_append (l := cs), clauseLiterals_append, ← ih]
      rfl

theorem length_leaves_clauseLiterals (clauses : List Checked) :
    ((clauseLiterals clauses).flatMap Filter.leaves).length = (comparisons clauses).length := by
  rw [clauseLiterals, List.length_flatMap, List.map_map]
  have hone : (comparisons clauses).map (fun c => c.literal.leaves.length) =
      (comparisons clauses).map fun _ => 1 :=
    List.map_congr_left fun c _ => c.length_leaves_literal
  exact (congrArg List.sum hone).trans (by simp)

/-- A list that breaks no rule of order compiles to two levels, with a group for every piece. -/
theorem isTwoLevel_compile {clauses : List Checked}
    (h : sequenceError? (clauses.map Checked.isSeparator) = none) :
    (compile clauses).IsTwoLevel ∧
      (compile clauses).groups = (clauses.splitOnP Checked.isSeparator).map fun piece =>
        .conjunction (clauseLiterals piece) := by
  rw [compile_eq]
  refine Filter.isTwoLevel_disjunction (by simp [List.splitOnP_ne_nil]) ?_
  rw [List.forall_mem_map]
  intro piece hpiece
  exact (isGroup_of_mem_piece hpiece (sequenceError?_eq_none_iff.mp h piece hpiece)).1

/-- The literals of the groups are those of the pieces. -/
theorem map_literals_compile {clauses : List Checked}
    (h : sequenceError? (clauses.map Checked.isSeparator) = none) :
    (compile clauses).groups.map Filter.literals =
      (clauses.splitOnP Checked.isSeparator).map clauseLiterals := by
  rw [(isTwoLevel_compile h).2, List.map_map]
  refine List.map_congr_left fun piece hpiece => ?_
  exact (isGroup_of_mem_piece hpiece (sequenceError?_eq_none_iff.mp h piece hpiece)).2

/-- **No clause is lost**: a list that breaks no rule of order compiles to a filter of two levels, with a
group for every piece between two separators. The literals of a group are those of its piece, so from
left to right they are the comparisons of the list, each negated when its clause is. -/
theorem compile_keeps_every_clause {clauses : List Checked}
    (h : sequenceError? (clauses.map Checked.isSeparator) = none) :
    let f := compile clauses
    f ≠ .always ∧ f.IsTwoLevel ∧
      ((∃ gs, f = .any gs) ↔ .separator ∈ clauses) ∧
      f.groups.length = clauses.countP Checked.isSeparator + 1 ∧
      f.groups.map Filter.literals = (clauses.splitOnP Checked.isSeparator).map clauseLiterals ∧
      f.groups.flatMap Filter.literals = clauseLiterals clauses ∧
      f.leafCount = (comparisons clauses).length := by
  intro f
  obtain ⟨htwo, hgroups⟩ := isTwoLevel_compile h
  have hcount : f.groups.length = clauses.countP Checked.isSeparator + 1 := by
    rw [hgroups, List.length_map, length_splitOnP]
  have hflat : f.groups.flatMap Filter.literals = clauseLiterals clauses := by
    rw [List.flatMap_def, map_literals_compile h, ← List.flatMap_def, flatMap_clauseLiterals]
  refine ⟨htwo.ne_always, htwo, ?_, hcount, map_literals_compile h, hflat, ?_⟩
  · rw [htwo.exists_eq_any_iff, hcount, Nat.succ_le_succ_iff, Nat.succ_le_iff,
      List.countP_pos_iff]
    simp [Checked.isSeparator_iff]
  · calc f.leafCount
      _ = ((f.groups.flatMap Filter.literals).flatMap Filter.leaves).length := by
        rw [Filter.leafCount, Filter.leaves_eq_flatMap_groups, List.flatMap_assoc]
        congr 1
        exact List.flatMap_congr fun g _ => g.leaves_eq_flatMap_literals
      _ = (comparisons clauses).length := by rw [hflat, length_leaves_clauseLiterals]

/-- Clauses in three groups, one of them negated. -/
def threeGroups : List Checked :=
  [.comparison ⟨"age", .gt, .int 30, "30", true, .int⟩, .separator,
    .comparison ⟨"name", .exact, .text "Ann", "Ann", false, .string⟩,
    .comparison ⟨"age", .isNull, .null, "", false, .int⟩, .separator,
    .comparison ⟨"name", .isEmpty, .null, "", true, .string⟩]

theorem compile_keeps_every_clause_threeGroups :
    sequenceError? (threeGroups.map Checked.isSeparator) = none ∧
      (compile threeGroups).groups.length = 3 ∧
      (compile threeGroups).groups.flatMap Filter.literals =
        [.not (.leaf .gt "age" (.int 30)), .leaf .eq "name" (.text "Ann"), .leaf .eq "age" .null,
          .not (.leaf .eq "name" (.text ""))] ∧
      (compile threeGroups).leafCount = 4 := by
  have h : sequenceError? (threeGroups.map Checked.isSeparator) = none := by decide
  obtain ⟨-, -, -, hgroups, -, hliterals, hcount⟩ := compile_keeps_every_clause h
  exact ⟨h, hgroups, hliterals, hcount⟩

end Filterbook

import Filterbook.Proofs.Clause.Stored
import Filterbook.Proofs.Filter.Compilation
import Filterbook.Proofs.Filter.Condition
import Filterbook.Proofs.Filter.Reached

/-!
# What a query selects

A database decides a condition in three truth values: a comparison whose column is null or missing is
unknown, and so may be what is joined from it; a row is selected where the condition is true. A filter
decides rows in two: there a comparison fails where there is nothing to compare. Both say the same of a
comparison, and of what is joined without negation. Under a negation they differ: what is unknown stays
unknown, and what fails holds.

## What is proved

* `agrees_condition`: where a condition is true or false, so is its filter. So a query selects no row
  that its filter does not.
* `selects_iff_of_settled`: where no negation stands over an unknown condition, a query selects the rows
  of its filter.
* `compiled_selects_iff_holds`: so it is for compiled clauses on rows where every negated comparison,
  other than the test for absence, finds a value.
* `negated_misses_absent`: without this it fails, for one negated comparison and a row without a value.

All of this is about rows in which a path reaches one value at most, as a column has.
-/

namespace Filterbook

/-- The value of a path is null or missing. -/
def Json.lacks (row : Json) (path : String) : Bool := (row.reach path).all Json.isNull

namespace Sql

/-! ### Truth values -/

/-- A truth value of a database. -/
inductive Truth where
  /-- True. -/
  | isTrue
  /-- False. -/
  | isFalse
  /-- Neither is known. -/
  | unknown
  deriving DecidableEq, Repr

namespace Truth

/-- A truth value that is known. -/
def ofBool : Bool → Truth
  | true => isTrue
  | false => isFalse

/-- What `NOT` makes of a truth value. -/
def not : Truth → Truth
  | isTrue => isFalse
  | isFalse => isTrue
  | unknown => unknown

/-- What `AND` makes of two truth values: one that is false decides. -/
def and : Truth → Truth → Truth
  | isFalse, _ => isFalse
  | _, isFalse => isFalse
  | isTrue, isTrue => isTrue
  | _, _ => unknown

/-- What `OR` makes of two truth values: one that is true decides. -/
def or : Truth → Truth → Truth
  | isTrue, _ => isTrue
  | _, isTrue => isTrue
  | isFalse, isFalse => isFalse
  | _, _ => unknown

variable {t u : Truth} {b c : Bool}

@[simp] theorem ofBool_eq_isTrue : ofBool b = isTrue ↔ b = true := by cases b <;> simp [ofBool]

@[simp] theorem and_eq_isTrue : t.and u = isTrue ↔ t = isTrue ∧ u = isTrue := by
  cases t <;> cases u <;> simp [and]

@[simp] theorem or_eq_isTrue : t.or u = isTrue ↔ t = isTrue ∨ u = isTrue := by
  cases t <;> cases u <;> simp [or]

/-- What is known of a truth value is right. -/
def Agrees : Truth → Bool → Prop
  | isTrue, b => b = true
  | isFalse, b => b = false
  | unknown, _ => True

theorem agrees_ofBool (b : Bool) : (ofBool b).Agrees b := by cases b <;> rfl

theorem Agrees.not (h : t.Agrees b) : t.not.Agrees (!b) := by
  cases t <;> simp_all [Agrees, Truth.not]

theorem Agrees.and (ht : t.Agrees b) (hu : u.Agrees c) : (t.and u).Agrees (b && c) := by
  cases t <;> cases u <;> simp_all [Agrees, Truth.and]

theorem Agrees.or (ht : t.Agrees b) (hu : u.Agrees c) : (t.or u).Agrees (b || c) := by
  cases t <;> cases u <;> simp_all [Agrees, Truth.or]

theorem Agrees.eq_ofBool (h : t.Agrees b) (ht : t ≠ unknown) : t = ofBool b := by
  cases t <;> simp_all [Agrees, ofBool]

end Truth

/-! ### Conditions on rows -/

namespace Condition

mutual

/-- What a database makes of a condition on a row. A test for the null value is always decided; any other
comparison is unknown where the column is null or missing, and otherwise as it is for filters. -/
def truth (row : Json) : Condition → Truth
  | constant b => .ofBool b
  | isNull path => .ofBool (row.lacks path)
  | compare c path operand =>
    if row.lacks path then .unknown else .ofBool (Filter.leafHolds c path operand row)
  | all c cs => (truth row c).and (truthAll row cs)
  | any c cs => (truth row c).or (truthAny row cs)
  | not c => (truth row c).not

/-- Conditions joined by `AND`. -/
def truthAll (row : Json) : List Condition → Truth
  | [] => .isTrue
  | c :: cs => (truth row c).and (truthAll row cs)

/-- Conditions joined by `OR`. -/
def truthAny (row : Json) : List Condition → Truth
  | [] => .isFalse
  | c :: cs => (truth row c).or (truthAny row cs)

end

/-- A query with this condition selects the row. -/
def Selects (c : Condition) (row : Json) : Prop := c.truth row = .isTrue

end Condition

end Sql

open Sql

/-! ### Comparisons where there is no value -/

namespace Filter

variable {row : Json} {c : Comparator} {path : String} {operand : Value} {f : Filter}
  {fs : List Filter}

/-- Where there is no value, a comparison fails, unless it asks for just that. -/
theorem leafHolds_of_lacks (hc : c.asksMissing operand = false) (hpath : row.lacks path = true) :
    leafHolds c path operand row = false := by
  have hnull : ∀ v ∈ row.reach path, v = .null := by
    intro v hv
    have hv' : v.isNull = true := List.all_eq_true.mp hpath v hv
    cases v <;> first | rfl | cases hv'
  rw [leafHolds_eq_any hc, List.any_eq_false]
  intro v hv
  rw [hnull v hv, Comparator.finds_null]
  exact Bool.false_ne_true

/-- Where a path reaches one value at most, asking for absence is asking for a null column. -/
theorem leafHolds_of_asksMissing (hc : c.asksMissing operand = true)
    (hpath : (row.reach path).length ≤ 1) : leafHolds c path operand row = row.lacks path := by
  unfold Comparator.asksMissing at hc
  simp only [leafHolds, hc, if_true, Json.lacks]
  cases hvalues : row.reach path with
  | nil => rfl
  | cons v values =>
    obtain rfl : values = [] := by simpa [hvalues] using hpath
    simp

/-! ### Rows with one value for each path -/

/-- Every path of the filter reaches one value of the row at most. -/
def SingleValued (row : Json) (f : Filter) : Prop :=
  ∀ leaf ∈ f.leaves, (row.reach leaf.2.1).length ≤ 1

instance (row : Json) (f : Filter) : Decidable (f.SingleValued row) :=
  inferInstanceAs (Decidable (∀ leaf ∈ f.leaves, (row.reach leaf.2.1).length ≤ 1))

theorem SingleValued.of_leaf (h : (leaf c path operand).SingleValued row) :
    (row.reach path).length ≤ 1 :=
  h (c, path, operand) (by rw [leaves]; exact List.mem_singleton_self _)

theorem SingleValued.of_not (h : (not f).SingleValued row) : f.SingleValued row :=
  fun x hx => h x (by rwa [leaves])

theorem SingleValued.of_all (h : (all fs).SingleValued row) : ∀ f ∈ fs, f.SingleValued row :=
  forall_leavesOf.mp h

theorem SingleValued.of_any (h : (any fs).SingleValued row) : ∀ f ∈ fs, f.SingleValued row :=
  forall_leavesOf.mp h

/-! ### Known truth values -/

theorem agrees_leaf (hpath : (row.reach path).length ≤ 1) :
    ((leaf c path operand).condition.truth row).Agrees (leafHolds c path operand row) := by
  rw [condition]
  split
  · next hc =>
    rw [leafHolds_of_asksMissing hc hpath]
    exact Truth.agrees_ofBool _
  · rw [Condition.truth]
    split
    · trivial
    · exact Truth.agrees_ofBool _

theorem agrees_truthAll (h : ∀ f ∈ fs, (f.condition.truth row).Agrees (f.holds row)) :
    (Condition.truthAll row (conditions fs)).Agrees (holdsAll row fs) := by
  induction fs with
  | nil => rfl
  | cons f fs ih =>
    rw [List.forall_mem_cons] at h
    rw [conditions, Condition.truthAll, holdsAll]
    exact h.1.and (ih h.2)

theorem agrees_truthAny (h : ∀ f ∈ fs, (f.condition.truth row).Agrees (f.holds row)) :
    (Condition.truthAny row (conditions fs)).Agrees (holdsAny row fs) := by
  induction fs with
  | nil => rfl
  | cons f fs ih =>
    rw [List.forall_mem_cons] at h
    rw [conditions, Condition.truthAny, holdsAny]
    exact h.1.or (ih h.2)

/-- The condition of a list of filters is decided as the list of their conditions. -/
theorem truth_all (row : Json) (fs : List Filter) :
    (all fs).condition.truth row = Condition.truthAll row (conditions fs) := by
  cases fs <;> rfl

theorem truth_any (row : Json) (fs : List Filter) :
    (any fs).condition.truth row = Condition.truthAny row (conditions fs) := by
  cases fs <;> rfl

/-- **What a database knows of a condition is right for its filter**, with negations at any depth. -/
theorem agrees_condition (h : f.SingleValued row) : (f.condition.truth row).Agrees (f.holds row) := by
  induction f with
  | always => rfl
  | leaf c path operand =>
    rw [holds]
    exact agrees_leaf h.of_leaf
  | all fs ih =>
    rw [truth_all, holds]
    exact agrees_truthAll fun f hf => ih f hf (h.of_all f hf)
  | any fs ih =>
    rw [truth_any, holds]
    exact agrees_truthAny fun f hf => ih f hf (h.of_any f hf)
  | not f ih =>
    rw [condition, Condition.truth, holds]
    exact (ih h.of_not).not

theorem holds_of_selects (h : f.SingleValued row) (hs : f.condition.Selects row) :
    f.holds row = true := by
  have hagrees := agrees_condition h
  rw [Condition.Selects] at hs
  rw [hs] at hagrees
  exact hagrees

/-! ### Negations over what is known -/

/-- No negation of the filter stands over a condition that is unknown on the row. -/
inductive Settled (row : Json) : Filter → Prop where
  /-- There is nothing to know. -/
  | always : Settled row always
  /-- A comparison may be unknown. -/
  | leaf (c : Comparator) (path : String) (operand : Value) : Settled row (leaf c path operand)
  /-- A conjunction of such filters. -/
  | all {fs : List Filter} (h : ∀ f ∈ fs, Settled row f) : Settled row (all fs)
  /-- A disjunction of such filters. -/
  | any {fs : List Filter} (h : ∀ f ∈ fs, Settled row f) : Settled row (any fs)
  /-- A negation of what is known. -/
  | not {f : Filter} (h : f.condition.truth row ≠ .unknown) : Settled row (not f)

theorem selects_all : (all fs).condition.Selects row ↔ ∀ f ∈ fs, f.condition.Selects row := by
  rw [Condition.Selects, truth_all]
  induction fs with
  | nil => simp [conditions, Condition.truthAll]
  | cons f fs ih =>
    rw [conditions, Condition.truthAll, Truth.and_eq_isTrue, ih, List.forall_mem_cons,
      Condition.Selects]

theorem selects_any : (any fs).condition.Selects row ↔ ∃ f ∈ fs, f.condition.Selects row := by
  rw [Condition.Selects, truth_any]
  induction fs with
  | nil => simp [conditions, Condition.truthAny]
  | cons f fs ih =>
    rw [conditions, Condition.truthAny, Truth.or_eq_isTrue, ih, List.exists_mem_cons_iff,
      Condition.Selects]

/-- A comparison that is unknown fails, so a query selects by one comparison as a filter does. -/
theorem selects_leaf_iff (hpath : (row.reach path).length ≤ 1) :
    (leaf c path operand).condition.Selects row ↔ leafHolds c path operand row = true := by
  rw [Condition.Selects, condition]
  split
  · next hc =>
    rw [leafHolds_of_asksMissing hc hpath, Condition.truth, Truth.ofBool_eq_isTrue]
  · next hc =>
    rw [Condition.truth]
    split
    · next hlacks => simp [leafHolds_of_lacks (Bool.eq_false_iff.mpr hc) hlacks]
    · exact Truth.ofBool_eq_isTrue

/-- **Where no negation stands over an unknown condition**, a query selects what its filter does. -/
theorem selects_iff_of_settled (hs : f.Settled row) (h : f.SingleValued row) :
    f.condition.Selects row ↔ f.holds row = true := by
  induction hs with
  | always => exact iff_of_true rfl (holds_always row)
  | leaf c path operand =>
    rw [holds_leaf]
    exact selects_leaf_iff h.of_leaf
  | all _ ih =>
    rw [selects_all, holds_all_iff]
    exact forall₂_congr fun f hf => ih f hf (h.of_all f hf)
  | any _ ih =>
    rw [selects_any, holds_any_iff]
    exact exists_congr fun f => and_congr_right fun hf => ih f hf (h.of_any f hf)
  | @not f hknown =>
    have htruth : f.condition.truth row = .ofBool (f.holds row) :=
      (agrees_condition h.of_not).eq_ofBool hknown
    rw [Condition.Selects, condition, Condition.truth, htruth, holds_not]
    cases f.holds row <;> simp [Truth.ofBool, Truth.not]

/-! ### Compiled clauses -/

theorem Settled.andThen {g : Filter} (hf : f.Settled row) (hg : g.Settled row) :
    (f.andThen g).Settled row := by
  unfold Filter.andThen
  split
  · exact hg
  · exact hf
  · cases hf with
    | all hfs => exact .all (List.forall_mem_append.mpr ⟨hfs, List.forall_mem_singleton.mpr hg⟩)
  · exact .all (List.forall_mem_cons.mpr ⟨hf, List.forall_mem_singleton.mpr hg⟩)

theorem Settled.disjunction (h : ∀ f ∈ fs, f.Settled row) : (disjunction fs).Settled row := by
  unfold Filter.disjunction
  split
  · exact .always
  · split
    · exact List.forall_mem_singleton.mp h
    · exact .any h

/-- A negated comparison is settled where it finds a value, or asks for absence. -/
theorem settled_comparison {c : Comparison}
    (h : c.negate = true → c.operator = .isNull ∨ row.lacks c.path = false) :
    c.filter.Settled row := by
  rw [Comparison.filter, Operator.comparison_eq_leaf]
  cases hnegate : c.negate with
  | false => exact .leaf _ _ _
  | true =>
    refine .not ?_
    rw [condition]
    rcases h hnegate with hnull | hvalue
    · rw [hnull, if_pos (by rfl)]
      cases hlacks : row.lacks c.path <;> simp [Condition.truth, hlacks, Truth.ofBool]
    · split <;> rw [Condition.truth, hvalue]
      · simp [Truth.ofBool]
      · cases leafHolds _ _ _ _ <;> simp [Truth.ofBool]

end Filter

/-- **Queries and filters select the same rows**, where every negated comparison finds a value: the
condition that is written for compiled clauses selects no row that the filter does not; and it selects
all rows that the filter does, of those in which every negated comparison, other than the test for
absence, finds a value. -/
theorem compiled_selects_iff_holds (clauses : List Checked) (row : Json)
    (h : (compile clauses).SingleValued row) :
    (∀ offset, (compile clauses).condition.text offset = (compile clauses).sql offset) ∧
      (compile clauses).condition.params = (compile clauses).params ∧
      ((compile clauses).condition.Selects row → (compile clauses).holds row = true) ∧
      ((∀ c, .comparison c ∈ clauses → c.negate = true →
          c.operator = .isNull ∨ row.lacks c.path = false) →
        ((compile clauses).condition.Selects row ↔ (compile clauses).holds row = true)) := by
  refine ⟨fun offset => Filter.text_condition offset _, Filter.params_condition _,
    Filter.holds_of_selects h, fun hvalues => ?_⟩
  have hsettled : (compile clauses).Settled row :=
    compile_induction .always .andThen .disjunction fun c hc =>
      Filter.settled_comparison (hvalues c hc)
  exact Filter.selects_iff_of_settled hsettled h

/-- Customers who are not older than 30. -/
def notOlder : List ClauseRequest :=
  [.keep { field := .path "age", operator? := some "gt", value := "30", negate := true }]

/-- The clauses of this submission. -/
def notOlderChecked : List Checked := [.comparison ⟨"age", .gt, .int 30, "30", true, .int⟩]

theorem compiled_selects_iff_holds_young :
    (compile notOlderChecked).SingleValued (.obj [("age", .int 20)]) ∧
      (compile notOlderChecked).holds (.obj [("age", .int 20)]) = true ∧
      (compile notOlderChecked).condition.Selects (.obj [("age", .int 20)]) := by
  have hsingle : (compile notOlderChecked).SingleValued (.obj [("age", .int 20)]) := by decide
  have hholds : (compile notOlderChecked).holds (.obj [("age", .int 20)]) = true := by decide
  obtain ⟨-, -, -, hiff⟩ := compiled_selects_iff_holds notOlderChecked _ hsingle
  refine ⟨hsingle, hholds, (hiff ?_).mpr hholds⟩
  intro c hc _
  cases List.mem_singleton.mp hc
  exact .inr (by decide)

/-- Of a customer whose age is not known, a query does not know whether the customer is older than 30; the
filter takes the customer for one who is not. -/
theorem negated_misses_absent :
    validateClauses customers "Customer" .standard notOlder = .ok notOlderChecked ∧
      (compile notOlderChecked).sql 0 = "NOT (age > $1)" ∧
      (compile notOlderChecked).SingleValued (.obj [("age", .null)]) ∧
      ¬ (compile notOlderChecked).condition.Selects (.obj [("age", .null)]) ∧
      (compile notOlderChecked).holds (.obj [("age", .null)]) = true := by
  refine ⟨rfl, by decide +kernel, by decide, ?_, by decide⟩
  rw [Condition.Selects]
  decide

end Filterbook

import Filterbook.Filter.Sql

/-!
# Conditions of queries

The text that is written for a filter is a condition of a query: a constant, a test for the null value,
a comparison of a column with a placeholder, or conditions joined by `AND`, `OR` and `NOT`. This module
gives these conditions a syntax of their own (`Sql.Condition`), with the text of each, and says which
condition a filter is written as (`Filter.condition`).

## What is proved

* `Filter.params_condition`, `Filter.chars_condition`: the text and the parameters of that condition are
  those of the filter, for every offset. So what a database makes of the text can be read off the
  condition.

A condition keeps the path and the operand of a comparison, of which the text shows only the column
and the placeholder. Whether a text can be read as one condition only is not a question here.
-/

namespace Filterbook

namespace Sql

/-- A condition of a query. -/
inductive Condition where
  /-- Always or never. -/
  | constant (b : Bool)
  /-- The column of a path is null. -/
  | isNull (path : String)
  /-- The column of a path compares with the value of a placeholder. -/
  | compare (comparator : Comparator) (path : String) (operand : Value)
  /-- Conditions joined by `AND`. -/
  | all (first : Condition) (rest : List Condition)
  /-- Conditions joined by `OR`. -/
  | any (first : Condition) (rest : List Condition)
  /-- A condition after `NOT`. -/
  | not (condition : Condition)

namespace Condition

mutual

/-- The values to bind, in the order of their placeholders. -/
def params : Condition → List Value
  | constant _ => []
  | isNull _ => []
  | compare c _ operand => [c.bound operand]
  | all c cs => params c ++ paramsOf cs
  | any c cs => params c ++ paramsOf cs
  | not c => params c

/-- The values that several conditions bind. -/
def paramsOf : List Condition → List Value
  | [] => []
  | c :: cs => params c ++ paramsOf cs

end

/-- A comparison of a column with the placeholder after the offset. -/
def comparisonChars (offset : Nat) (c : Comparator) (path : String) : List Char :=
  let column := Filter.columnChars path
  let place := '$' :: Number.natDigits (offset + 1)
  if c.lowers then Filter.inParens "LOWER" column ++ " = ".toList ++ Filter.inParens "LOWER" place
  else column ++ ' ' :: c.sqlOperator.toList ++ ' ' :: place

mutual

/-- The text of a condition, with placeholders numbered on from an offset. -/
def chars (offset : Nat) : Condition → List Char
  | constant b => (if b then "TRUE" else "FALSE").toList
  | isNull path => Filter.columnChars path ++ " IS NULL".toList
  | compare c path _ => comparisonChars offset c path
  | all c cs =>
    Filter.inParens "" (chars offset c ++ restChars (offset + (params c).length) " AND " cs)
  | any c cs =>
    Filter.inParens "" (chars offset c ++ restChars (offset + (params c).length) " OR " cs)
  | not c => Filter.inParens "NOT " (chars offset c)

/-- The texts of the conditions that follow a first one, each after a word. -/
def restChars (offset : Nat) (word : String) : List Condition → List Char
  | [] => []
  | c :: cs => word.toList ++ chars offset c ++ restChars (offset + (params c).length) word cs

end

/-- The text of a condition. -/
def text (offset : Nat) (c : Condition) : String := String.ofList (c.chars offset)

end Condition

end Sql

namespace Filter

open Sql

mutual

/-- The condition that a filter is written as. A list without members is a constant. -/
def condition : Filter → Condition
  | always => .constant true
  | leaf c path operand => if c.asksMissing operand then .isNull path else .compare c path operand
  | all [] => .constant true
  | all (f :: fs) => .all (condition f) (conditions fs)
  | any [] => .constant false
  | any (f :: fs) => .any (condition f) (conditions fs)
  | not f => .not (condition f)

/-- The conditions that several filters are written as. -/
def conditions : List Filter → List Condition
  | [] => []
  | f :: fs => condition f :: conditions fs

end

/-! ### Parameters -/

theorem paramsOf_conditions {fs : List Filter} (h : ∀ f ∈ fs, f.condition.params = f.params) :
    Condition.paramsOf (conditions fs) = paramsOf fs := by
  induction fs with
  | nil => rfl
  | cons f fs ih =>
    rw [List.forall_mem_cons] at h
    rw [conditions, Condition.paramsOf, paramsOf, h.1, ih h.2]

theorem params_condition (f : Filter) : f.condition.params = f.params := by
  induction f with
  | always => rfl
  | leaf c path operand =>
    rw [condition, params, leafParams]
    split <;> rfl
  | all fs ih =>
    cases fs with
    | nil => rfl
    | cons f fs =>
      rw [List.forall_mem_cons] at ih
      rw [condition, Condition.params, ih.1, paramsOf_conditions ih.2]
      rfl
  | any fs ih =>
    cases fs with
    | nil => rfl
    | cons f fs =>
      rw [List.forall_mem_cons] at ih
      rw [condition, Condition.params, ih.1, paramsOf_conditions ih.2]
      rfl
  | not f ih => exact ih

/-! ### Texts -/

theorem chars_condition_leaf (offset : Nat) (c : Comparator) (path : String) (operand : Value) :
    (leaf c path operand).condition.chars offset = leafSql offset c path operand := by
  rw [condition, leafSql]
  split <;> rfl

theorem restChars_conditions {fs : List Filter}
    (h : ∀ f ∈ fs, ∀ offset, f.condition.chars offset = f.sqlChars offset) (offset : Nat)
    (word : String) : Condition.restChars offset word (conditions fs) = sqlRest offset word fs := by
  induction fs generalizing offset with
  | nil => rfl
  | cons f fs ih =>
    rw [List.forall_mem_cons] at h
    rw [conditions, Condition.restChars, sqlRest, h.1, params_condition, ih h.2]

/-- **A filter is written as its condition**, wherever its placeholders start. -/
theorem chars_condition (f : Filter) : ∀ offset, f.condition.chars offset = f.sqlChars offset := by
  induction f with
  | always => intro offset; rfl
  | leaf c path operand =>
    intro offset
    rw [chars_condition_leaf, sqlChars]
  | all fs ih =>
    intro offset
    cases fs with
    | nil => rfl
    | cons f fs =>
      rw [List.forall_mem_cons] at ih
      rw [condition, Condition.chars, ih.1, params_condition, restChars_conditions ih.2, sqlChars]
  | any fs ih =>
    intro offset
    cases fs with
    | nil => rfl
    | cons f fs =>
      rw [List.forall_mem_cons] at ih
      rw [condition, Condition.chars, ih.1, params_condition, restChars_conditions ih.2, sqlChars]
  | not f ih =>
    intro offset
    rw [condition, Condition.chars, ih, sqlChars]

theorem text_condition (offset : Nat) (f : Filter) : f.condition.text offset = f.sql offset := by
  rw [Condition.text, chars_condition, sql]

end Filter

end Filterbook

import Filterbook.Filter.Sql
import Filterbook.Proofs.Clause.Stored
import Filterbook.Proofs.Filter.Compilation
import Filterbook.Proofs.Value.Conversion

/-!
# Operands and the text of a query

What an author types reaches a database as a value to bind, never as a part of the text. This module
compares two filters that differ in their operands alone (`Filter.SameShape`), and two submissions that
differ in the values of their clauses alone (`ClauseRequest.SameButValue`).

## What is proved

* `Filter.SameShape.writtenAlike`: filters of one shape have the same text, wherever their placeholders
  start, as long as equality with the null value stays what it is: it is written as a test of its own.
* `sameShape_compile`: what is compiled from checked clauses that differ in their operands alone has one
  shape; the compiler never looks at an operand.
* `forall₂_checked`: submissions that differ in their values alone pass as such clauses: a value that
  passes is never the null value (`Value.isNull_of_read`).
* `operands_stay_out_of_text`: so the text is the same for filters of one shape, and for what is compiled
  from two submissions that pass and differ in their values alone.
-/

namespace Filterbook

theorem isEmpty_congr {α β : Type} {R : α → β → Prop} {as : List α} {bs : List β}
    (h : List.Forall₂ R as bs) : as.isEmpty = bs.isEmpty := by
  cases h <;> rfl

/-! ### Filters of one shape -/

namespace Filter

/-- The filters differ in their operands alone, and ask for absence in the same places. -/
inductive SameShape : Filter → Filter → Prop where
  /-- The filter of every row. -/
  | always : SameShape always always
  /-- Comparisons of one path. An equality has the null value for its operand in both or in neither. -/
  | leaf (c : Comparator) (path : String) {v w : Value} (h : c = .eq → v.isNull = w.isNull) :
    SameShape (leaf c path v) (leaf c path w)
  /-- Conjunctions of as many filters, one by one of one shape. -/
  | all {fs gs : List Filter} (h : List.Forall₂ SameShape fs gs) : SameShape (all fs) (all gs)
  /-- Disjunctions of as many filters, one by one of one shape. -/
  | any {fs gs : List Filter} (h : List.Forall₂ SameShape fs gs) : SameShape (any fs) (any gs)
  /-- Negations. -/
  | not {f g : Filter} (h : SameShape f g) : SameShape (not f) (not g)

/-- The filters are written alike, wherever their placeholders start, and bind as many values. -/
structure WrittenAlike (f g : Filter) : Prop where
  /-- The texts are the same. -/
  text : ∀ offset, f.sqlChars offset = g.sqlChars offset
  /-- There are as many parameters. -/
  count : f.params.length = g.params.length

variable {f f' g g' : Filter} {fs gs : List Filter}

theorem writtenAlike_leaf (c : Comparator) (path : String) {v w : Value}
    (h : c = .eq → v.isNull = w.isNull) : (leaf c path v).WrittenAlike (leaf c path w) := by
  have hasks : c.asksMissing v = c.asksMissing w := by
    unfold Comparator.asksMissing
    by_cases hc : c = .eq
    · rw [h hc]
    · simp [hc]
  refine ⟨fun offset => ?_, ?_⟩
  · rw [sqlChars, sqlChars, leafSql, leafSql, hasks]
  · rw [params, params, leafParams, leafParams, hasks]
    split <;> rfl

/-- The members of a list written alike, the list is: the first takes up as many placeholders. -/
theorem sqlRest_congr (h : List.Forall₂ WrittenAlike fs gs) (word : String) :
    (∀ offset, sqlRest offset word fs = sqlRest offset word gs) ∧
      (paramsOf fs).length = (paramsOf gs).length := by
  induction h with
  | nil => exact ⟨fun _ => rfl, rfl⟩
  | cons hfg _ ih =>
    refine ⟨fun offset => ?_, ?_⟩
    · rw [sqlRest, sqlRest, hfg.text, hfg.count, ih.1]
    · rw [paramsOf, paramsOf, List.length_append, List.length_append, hfg.count, ih.2]

theorem writtenAlike_all (h : List.Forall₂ WrittenAlike fs gs) : (all fs).WrittenAlike (all gs) := by
  refine ⟨fun offset => ?_, by rw [params, params, (sqlRest_congr h "").2]⟩
  cases h with
  | nil => rfl
  | cons hfg h => rw [sqlChars, sqlChars, hfg.text, hfg.count, (sqlRest_congr h " AND ").1]

theorem writtenAlike_any (h : List.Forall₂ WrittenAlike fs gs) : (any fs).WrittenAlike (any gs) := by
  refine ⟨fun offset => ?_, by rw [params, params, (sqlRest_congr h "").2]⟩
  cases h with
  | nil => rfl
  | cons hfg h => rw [sqlChars, sqlChars, hfg.text, hfg.count, (sqlRest_congr h " OR ").1]

/-- **Filters of one shape are written alike.** -/
theorem SameShape.writtenAlike (h : f.SameShape g) : f.WrittenAlike g := by
  induction f generalizing g with
  | always =>
    cases h
    exact ⟨fun _ => rfl, rfl⟩
  | leaf c path v =>
    cases h with
    | leaf _ _ h => exact writtenAlike_leaf c path h
  | all fs ih =>
    cases h with
    | all h =>
      have hboth := (List.forall₂_and_left fs _).mpr ⟨ih, h⟩
      exact writtenAlike_all (hboth.imp fun _ _ hfg => hfg.1 hfg.2)
  | any fs ih =>
    cases h with
    | any h =>
      have hboth := (List.forall₂_and_left fs _).mpr ⟨ih, h⟩
      exact writtenAlike_any (hboth.imp fun _ _ hfg => hfg.1 hfg.2)
  | not f ih =>
    cases h with
    | not h =>
      have hfg := ih h
      exact ⟨fun offset => by rw [sqlChars, sqlChars, hfg.text], by rw [params, params, hfg.count]⟩

/-! ### Joining filters of one shape -/

theorem SameShape.isAlways_eq (h : f.SameShape g) : f.isAlways = g.isAlways := by cases h <;> rfl

theorem SameShape.negation (h : f.SameShape g) : f.negation.SameShape g.negation := by
  cases h with
  | always => exact .always
  | leaf c path h => exact .not (.leaf c path h)
  | all h => exact .not (.all h)
  | any h => exact .not (.any h)
  | not h => exact .not (.not h)

theorem SameShape.andThen (hf : f.SameShape f') (hg : g.SameShape g') :
    (f.andThen g).SameShape (f'.andThen g') := by
  by_cases halways : g = Filter.always
  · subst halways
    cases hg
    rwa [andThen_always, andThen_always]
  · have halways' : g' ≠ Filter.always := by
      rintro rfl
      cases hg
      exact halways rfl
    cases hf with
    | always => exact hg
    | all h =>
      rw [all_andThen _ halways, all_andThen _ halways']
      exact .all (List.rel_append h (.cons hg .nil))
    | leaf c path h =>
      rw [andThen_of_ne (f := .leaf c path _) nofun nofun halways,
        andThen_of_ne (f := .leaf c path _) nofun nofun halways']
      exact .all (.cons (.leaf c path h) (.cons hg .nil))
    | any h =>
      rw [andThen_of_ne (f := .any _) nofun nofun halways, andThen_of_ne (f := .any _) nofun nofun halways']
      exact .all (.cons (.any h) (.cons hg .nil))
    | not h =>
      rw [andThen_of_ne (f := .not _) nofun nofun halways, andThen_of_ne (f := .not _) nofun nofun halways']
      exact .all (.cons (.not h) (.cons hg .nil))

theorem SameShape.disjunction (h : List.Forall₂ SameShape fs gs) :
    (disjunction fs).SameShape (disjunction gs) := by
  have hany : fs.any isAlways = gs.any isAlways := by
    induction h with
    | nil => rfl
    | cons hfg _ ih => rw [List.any_cons, List.any_cons, hfg.isAlways_eq, ih]
  unfold Filter.disjunction
  rw [hany, isEmpty_congr h]
  split
  · exact .always
  · cases h with
    | nil => exact .any .nil
    | cons hfg h =>
      cases h with
      | nil => exact hfg
      | cons hfg' h => exact .any (.cons hfg (.cons hfg' h))

end Filter

/-! ### Compiled clauses -/

/-- The checked clauses differ in their operands alone. An operator that takes a value has the null value
for its operand in both or in neither. -/
inductive Checked.SameButOperand : Checked → Checked → Prop where
  /-- Separators. -/
  | separator : SameButOperand .separator .separator
  /-- Comparisons of one path by one operator. -/
  | comparison {c d : Comparison} (path : c.path = d.path) (operator : c.operator = d.operator)
    (negate : c.negate = d.negate)
    (value : c.operator.takesNoValue = false → c.value.isNull = d.value.isNull) :
    SameButOperand (.comparison c) (.comparison d)

/-- The operators without a value compare with values of their own. -/
theorem Operator.isNull_comparand {o : Operator} {v w : Value}
    (h : o.takesNoValue = false → v.isNull = w.isNull) :
    (o.comparand v).isNull = (o.comparand w).isNull := by
  cases o <;> first | rfl | exact h rfl

theorem Comparison.sameShape_filter {c d : Comparison} (path : c.path = d.path)
    (operator : c.operator = d.operator) (negate : c.negate = d.negate)
    (value : c.operator.takesNoValue = false → c.value.isNull = d.value.isNull) :
    c.filter.SameShape d.filter := by
  have hplain : (c.operator.comparison c.path c.value).SameShape
      (d.operator.comparison d.path d.value) := by
    rw [Operator.comparison_eq_leaf, Operator.comparison_eq_leaf, ← path, ← operator]
    exact .leaf _ _ fun _ => Operator.isNull_comparand value
  simp only [Comparison.filter, negate]
  split
  · exact hplain.negation
  · exact hplain

/-- What was read so far has one shape in both: the finished groups, and the current one. -/
structure Grouping.SameShape (g g' : Grouping) : Prop where
  /-- The finished groups, one by one. -/
  finished : List.Forall₂ Filter.SameShape g.finished g'.finished
  /-- The current group. -/
  current : g.current.SameShape g'.current

theorem Grouping.SameShape.add {g g' : Grouping} {k k' : Checked} (h : g.SameShape g')
    (hk : k.SameButOperand k') : (g.add k).SameShape (g'.add k') := by
  cases hk with
  | separator => exact ⟨.cons h.current h.finished, .always⟩
  | comparison path operator negate value =>
    exact ⟨h.finished, h.current.andThen (Comparison.sameShape_filter path operator negate value)⟩

theorem Grouping.SameShape.filter {g g' : Grouping} (h : g.SameShape g') :
    g.filter.SameShape g'.filter := by
  unfold Grouping.filter
  rw [isEmpty_congr h.finished]
  split
  · exact h.current
  · exact .disjunction (List.rel_reverse (.cons h.current h.finished))

/-- **The compiler does not look at operands**: clauses that differ in them alone compile to one shape. -/
theorem sameShape_compile {ks ks' : List Checked} (h : List.Forall₂ Checked.SameButOperand ks ks') :
    (compile ks).SameShape (compile ks') := by
  suffices hloop : ∀ g g' : Grouping, g.SameShape g' →
      (ks.foldl Grouping.add g).SameShape (ks'.foldl Grouping.add g') from
    (hloop {} {} ⟨.nil, .always⟩).filter
  induction h with
  | nil => exact fun _ _ hg => hg
  | cons hk _ ih => exact fun g g' hg => ih _ _ (hg.add hk)

/-! ### Submissions -/

theorem isNull_of_operandValue {kind : Kind} {raw : String} {v : Value}
    (h : operandValue kind raw = .ok v) : v.isNull = false := by
  unfold operandValue Value.convert at h
  split at h
  · cases h
  · cases hread : Value.read kind raw with
    | error cause => simp [hread] at h
    | ok w =>
      have hw : w = v := by simpa [hread] using h
      exact hw ▸ Value.isNull_of_read hread

/-- The second clause is the first, perhaps with another value. -/
def Clause.SameButValue (c d : Clause) : Prop := ∃ value, d = { c with value := value }

/-- The second request is the first, perhaps with another value. -/
def ClauseRequest.SameButValue (q q' : ClauseRequest) : Prop :=
  q.clause.SameButValue q'.clause ∧ q.delete = q'.delete

variable {r : Registry} {model : String} {catalog : Catalog}

/-- A value that passes is never the null value, so clauses that differ in their values alone pass as
checked clauses that differ in their operands alone. -/
theorem sameButOperand_of_validateClause {c d : Clause} {k k' : Checked} (h : c.SameButValue d)
    (hc : validateClause r model catalog c = .ok k) (hd : validateClause r model catalog d = .ok k') :
    k.SameButOperand k' := by
  obtain ⟨value, rfl⟩ := h
  rcases validateClause_cases hc with
    ⟨hsep, rfl⟩ | ⟨path, field, o, v, raw, hpath, hfield, ho, hv, rfl⟩
  · rcases validateClause_cases hd with ⟨-, rfl⟩ | ⟨_, _, _, _, _, hpath', -, -, -, -⟩
    · exact .separator
    · rw [show c.field = _ from hpath'] at hsep
      cases hsep
  · rcases validateClause_cases hd with
      ⟨hsep, -⟩ | ⟨path', field', o', w, raw', hpath', hfield', ho', hw, rfl⟩
    · rw [hpath] at hsep
      cases hsep
    · -- path, field and operator are read from what both clauses share
      rw [hpath] at hpath'
      cases hpath'
      rw [hfield] at hfield'
      cases hfield'
      rw [ho] at ho'
      cases ho'
      refine .comparison rfl rfl rfl fun htakes => ?_
      rw [Operand, htakes] at hv hw
      rw [isNull_of_operandValue hv.1, isNull_of_operandValue hw.1]

theorem forall₂_keptClauses {requests requests' : List ClauseRequest}
    (h : List.Forall₂ ClauseRequest.SameButValue requests requests') :
    List.Forall₂ Clause.SameButValue (keptClauses requests) (keptClauses requests') := by
  induction h with
  | nil => exact .nil
  | @cons q q' _ _ hq _ ih =>
    unfold keptClauses at ih ⊢
    rw [List.filter_cons, List.filter_cons, hq.2]
    split
    · exact .cons hq.1 ih
    · exact ih

/-- **Submissions that differ in their values alone pass as clauses that differ in their operands alone.** -/
theorem forall₂_checked {requests requests' : List ClauseRequest} {checked checked' : List Checked}
    (h : List.Forall₂ ClauseRequest.SameButValue requests requests')
    (hok : validateClauses r model catalog requests = .ok checked)
    (hok' : validateClauses r model catalog requests' = .ok checked') :
    List.Forall₂ Checked.SameButOperand checked checked' := by
  replace hok := (validateClauses_eq_ok_iff.mp hok).1
  replace hok' := (validateClauses_eq_ok_iff.mp hok').1
  have hkept := forall₂_keptClauses h
  generalize keptClauses requests = cs at hkept hok
  generalize keptClauses requests' = ds at hkept hok'
  induction hkept generalizing checked checked' with
  | nil =>
    cases hok
    cases hok'
    exact .nil
  | cons hcd _ ih =>
    cases hok with
    | cons hc hok =>
      cases hok' with
      | cons hd hok' => exact .cons (sameButOperand_of_validateClause hcd hc hd) (ih hok hok')

/-- **Operands stay out of the text**: filters that differ in their operands alone have the same text, if
equality with the null value stays what it is; and so have the filters compiled from two submissions that
pass and differ in the values of their clauses alone, whatever the values are. -/
theorem operands_stay_out_of_text :
    (∀ f g : Filter, f.SameShape g → ∀ offset, f.sql offset = g.sql offset) ∧
      ∀ (r : Registry) (model : String) (catalog : Catalog) (requests requests' : List ClauseRequest)
        (checked checked' : List Checked),
        List.Forall₂ ClauseRequest.SameButValue requests requests' →
        validateClauses r model catalog requests = .ok checked →
        validateClauses r model catalog requests' = .ok checked' →
        ∀ offset, (compile checked).sql offset = (compile checked').sql offset := by
  have htext : ∀ f g : Filter, f.SameShape g → ∀ offset, f.sql offset = g.sql offset := by
    intro f g h offset
    rw [Filter.sql, Filter.sql, h.writtenAlike.text]
  refine ⟨htext, ?_⟩
  intro r model catalog requests requests' checked checked' h hok hok'
  exact htext _ _ (sameShape_compile (forall₂_checked h hok hok'))

/-- Customers of a name. -/
def named (name : String) : List ClauseRequest :=
  [.keep { field := .path "name", operator? := some "exact", value := name }]

/-- The clauses of this submission. -/
def namedChecked (name : String) : List Checked :=
  [.comparison ⟨"name", .exact, .text name, name, false, .string⟩]

theorem operands_stay_out_of_text_quoted :
    validateClauses customers "Customer" .standard (named "Ann") = .ok (namedChecked "Ann") ∧
      validateClauses customers "Customer" .standard (named "x' OR TRUE --") =
        .ok (namedChecked "x' OR TRUE --") ∧
      (compile (namedChecked "x' OR TRUE --")).sql 0 = "name = $1" ∧
      (Filter.leaf .lt "age" (.int 18)).sql 4 = (Filter.leaf .lt "age" .null).sql 4 := by
  obtain ⟨hshape, hsubmitted⟩ := operands_stay_out_of_text
  have hann : validateClauses customers "Customer" .standard (named "Ann") =
      .ok (namedChecked "Ann") := rfl
  have hquoted : validateClauses customers "Customer" .standard (named "x' OR TRUE --") =
      .ok (namedChecked "x' OR TRUE --") := rfl
  have hsame : List.Forall₂ ClauseRequest.SameButValue (named "Ann") (named "x' OR TRUE --") :=
    .cons ⟨⟨_, rfl⟩, rfl⟩ .nil
  have hsql : (compile (namedChecked "Ann")).sql 0 = "name = $1" := by decide +kernel
  refine ⟨hann, hquoted, ?_, hshape _ _ (.leaf .lt "age" nofun) 4⟩
  rw [← hsubmitted _ _ _ _ _ _ _ hsame hann hquoted 0, hsql]

end Filterbook

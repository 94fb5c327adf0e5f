import Filterbook.Catalog
import Mathlib.Data.List.Induction
import Mathlib.Data.List.Nodup

/-!
# Changes of the catalog

The standard catalog may be changed kind by kind and category by category. What is in force after any
number of changes is told by the changes alone: of several changes of one kind, or of one category, the last
one counts, and a kind without an entry has the category of the nearest kind that it refines. Changes of
different kinds or categories do not meet, so their order makes no difference.

## What is proved

* `setLast_iff`: a state that every change either sets or leaves alone is what was set last.
* `categoryOf_changed_iff`, `operators_changed_iff`: the category of a kind and the operators of a category.
* `SameAnswers`, `sameAnswers_swap`: changes that are apart commute, whatever comes after them.
* `mem_all_iff`, `nodup_all`: the operators of all categories, once each.
* `latest_and_nearest_decide`: all of this together.
-/

namespace Filterbook.Catalog

/-- A change of the catalog. -/
inductive Change where
  /-- A kind is given a category. -/
  | classify (kind : Kind) (category : Category)
  /-- A category is given operators. -/
  | allot (category : Category) (operators : List Operator)

/-- The catalog after a change. -/
def change (c : Catalog) : Change → Catalog
  | .classify kind category => c.withKind kind category
  | .allot category operators => c.withOperators category operators

/-- The standard catalog after some changes, made one after another. -/
def changed (changes : List Change) : Catalog := changes.foldl change standard

theorem changed_concat (changes : List Change) (last : Change) :
    changed (changes ++ [last]) = (changed changes).change last := by
  simp [changed]

namespace Change

/-- The category that a change gives to a kind. -/
def categoryFor? (wanted : Kind) : Change → Option Category
  | classify kind category => if wanted = kind then some category else none
  | allot .. => none

/-- The operators that a change gives to a category. -/
def operatorsFor? (wanted : Category) : Change → Option (List Operator)
  | classify .. => none
  | allot category operators => if wanted = category then some operators else none

/-- Two changes that do not concern the same kind or the same category. -/
def Apart : Change → Change → Prop
  | classify a _, classify b _ => a ≠ b
  | allot a _, allot b _ => a ≠ b
  | _, _ => True

end Change

/-! ### What was set last -/

section SetLast

variable {α : Type} {sets? : Change → Option α} {start? : Option α}

/-- What the last of the changes sets that set anything, or what is there from the start when none does. -/
def SetLast (sets? : Change → Option α) (start? : Option α) (changes : List Change) (a : α) : Prop :=
  (∃ before last after, changes = before ++ last :: after ∧ sets? last = some a ∧
      ∀ c ∈ after, sets? c = none) ∨
    (∀ c ∈ changes, sets? c = none) ∧ start? = some a

/-- A further change counts when it sets anything. -/
theorem setLast_concat_iff {changes : List Change} {last : Change} {a : α} :
    SetLast sets? start? (changes ++ [last]) a ↔
      sets? last = some a ∨ sets? last = none ∧ SetLast sets? start? changes a := by
  unfold SetLast
  constructor
  · rintro (⟨before, c, after, hsplit, hsets, hafter⟩ | ⟨hnone, hstart⟩)
    · rcases List.eq_nil_or_concat after with rfl | ⟨after, d, rfl⟩
      · obtain ⟨-, hlast⟩ := List.append_inj' hsplit rfl
        obtain rfl := List.singleton_inj.mp hlast
        exact .inl hsets
      · rw [List.concat_eq_append, ← List.cons_append, ← List.append_assoc] at hsplit
        obtain ⟨rfl, hlast⟩ := List.append_inj' hsplit rfl
        obtain rfl := List.singleton_inj.mp hlast
        refine .inr ⟨hafter last (by simp), .inl ⟨before, c, after, rfl, hsets, fun d hd => ?_⟩⟩
        exact hafter d (by simp [hd])
    · rw [List.forall_mem_append, List.forall_mem_singleton] at hnone
      exact .inr ⟨hnone.2, .inr ⟨hnone.1, hstart⟩⟩
  · rintro (hsets | ⟨hlast, ⟨before, c, after, rfl, hsets, hafter⟩ | ⟨hnone, hstart⟩⟩)
    · exact .inl ⟨changes, last, [], rfl, hsets, List.forall_mem_nil _⟩
    · refine .inl ⟨before, c, after ++ [last], by simp, hsets, ?_⟩
      exact List.forall_mem_append.mpr ⟨hafter, List.forall_mem_singleton.mpr hlast⟩
    · exact .inr ⟨List.forall_mem_append.mpr ⟨hnone, List.forall_mem_singleton.mpr hlast⟩, hstart⟩

/-- **What was set last is in force**, when every change sets what is in force or leaves it alone. -/
theorem setLast_iff (now? : List Change → Option α) (hstart : now? [] = start?)
    (hchange : ∀ changes last, now? (changes ++ [last]) = (sets? last).or (now? changes))
    {changes : List Change} {a : α} : SetLast sets? start? changes a ↔ now? changes = some a := by
  induction changes using List.reverseRecOn with
  | nil => simp [SetLast, hstart]
  | append_singleton changes last ih =>
    rw [setLast_concat_iff, ih, hchange, Option.or_eq_some_iff]

end SetLast

/-- A kind has a category of its own after some changes. -/
def HasEntry (changes : List Change) (kind : Kind) (category : Category) : Prop :=
  SetLast (·.categoryFor? kind) (Category.standardTable.lookup kind) changes category

/-- A category has operators after some changes. -/
def Allots (changes : List Change) (category : Category) (operators : List Operator) : Prop :=
  SetLast (·.operatorsFor? category) (some (standardOperators category)) changes operators

/-- The category that counts for a kind: that of the nearest kind in its lineage that has one of its own. -/
inductive Decides (changes : List Change) (kind : Kind) : Category → Prop where
  /-- No kind nearer than this one has a category of its own. -/
  | nearest {nearer farther : List Kind} {k : Kind} {category : Category} :
      kind.lineage = nearer ++ k :: farther → HasEntry changes k category →
      (∀ k' ∈ nearer, ∀ category', ¬ HasEntry changes k' category') → Decides changes kind category
  /-- No kind at all has. -/
  | none : (∀ k ∈ kind.lineage, ∀ category, ¬ HasEntry changes k category) → Decides changes kind .other

/-! ### What is in force -/

variable {changes : List Change}

/-- Without the entries of one kind, the others are found as before. -/
theorem lookup_filter_ne (table : List (Kind × Category)) {kind wanted : Kind} (h : wanted ≠ kind) :
    (table.filter fun e => e.1 ≠ kind).lookup wanted = table.lookup wanted := by
  induction table with
  | nil => rfl
  | cons e table ih =>
    obtain ⟨k, category⟩ := e
    by_cases hk : k = kind
    · subst hk
      have hwanted : (wanted == k) = false := beq_eq_false_iff_ne.mpr h
      rw [List.filter_cons_of_neg (by simp), ih, List.lookup_cons, hwanted]
    · rw [List.filter_cons_of_pos (by simpa using hk), List.lookup_cons, List.lookup_cons, ih]

theorem lookup_change (c : Catalog) (last : Change) (wanted : Kind) :
    (c.change last).table.lookup wanted = (last.categoryFor? wanted).or (c.table.lookup wanted) := by
  cases last with
  | allot category operators => rfl
  | classify kind category =>
    show ((kind, category) :: c.table.filter fun e => e.1 ≠ kind).lookup wanted = _
    rw [List.lookup_cons, Change.categoryFor?]
    by_cases h : wanted = kind
    · rw [if_pos h, beq_iff_eq.mpr h]
      rfl
    · rw [if_neg h, beq_eq_false_iff_ne.mpr h, Option.none_or]
      exact lookup_filter_ne c.table h

theorem operators_change (c : Catalog) (last : Change) (wanted : Category) :
    (c.change last).operators wanted = (last.operatorsFor? wanted).getD (c.operators wanted) := by
  cases last with
  | classify kind category => rfl
  | allot category operators =>
    show (if wanted = category then operators else c.operators wanted) = _
    rw [Change.operatorsFor?]
    split <;> rfl

theorem hasEntry_iff {kind : Kind} {category : Category} :
    HasEntry changes kind category ↔ (changed changes).table.lookup kind = some category := by
  refine setLast_iff (fun changes => (changed changes).table.lookup kind) rfl ?_
  intro changes last
  rw [changed_concat, lookup_change]

/-- **The operators of a category** are those that it was given last. -/
theorem operators_changed_iff {category : Category} {operators : List Operator} :
    (changed changes).operators category = operators ↔ Allots changes category operators := by
  have hset : Allots changes category operators ↔
      some ((changed changes).operators category) = some operators := by
    refine setLast_iff (fun changes => some ((changed changes).operators category)) rfl ?_
    intro changes last
    rw [changed_concat, operators_change]
    cases last.operatorsFor? category <;> rfl
  rw [hset, Option.some_inj]

/-- **The category of a kind** is the one given last to the nearest kind that was given any. -/
theorem categoryOf_changed_iff {kind : Kind} {category : Category} :
    (changed changes).categoryOf kind = category ↔ Decides changes kind category := by
  have hnone : ∀ k, (changed changes).table.lookup k = none ↔ ∀ category, ¬ HasEntry changes k category := by
    simp [hasEntry_iff, Option.eq_none_iff_forall_ne_some]
  unfold categoryOf Category.classify
  constructor
  · rintro rfl
    cases hfound : kind.lineage.findSome? fun k => (changed changes).table.lookup k with
    | some category =>
      obtain ⟨nearer, k, farther, hlineage, hk, hnearer⟩ := List.findSome?_eq_some_iff.mp hfound
      exact .nearest hlineage (hasEntry_iff.mpr hk) fun k' hk' => (hnone k').mp (hnearer k' hk')
    | none => exact .none fun k hk => (hnone k).mp (List.findSome?_eq_none_iff.mp hfound k hk)
  · rintro (⟨hlineage, hk, hnearer⟩ | hall)
    · have hfound := List.findSome?_eq_some_iff.mpr
        ⟨_, _, _, hlineage, hasEntry_iff.mp hk, fun k' hk' => (hnone k').mpr (hnearer k' hk')⟩
      rw [hfound, Option.getD_some]
    · have hfound := List.findSome?_eq_none_iff.mpr fun k hk => (hnone k).mpr (hall k hk)
      rw [hfound, Option.getD_none]

/-! ### Changes that commute -/

/-- Two catalogs with the same entries and the same operators. -/
def Alike (c d : Catalog) : Prop :=
  (∀ kind, c.table.lookup kind = d.table.lookup kind) ∧ c.operators = d.operators

/-- Two catalogs that answer every question in the same way. -/
structure SameAnswers (c d : Catalog) : Prop where
  /-- The categories of kinds are the same. -/
  categoryOf : ∀ kind, c.categoryOf kind = d.categoryOf kind
  /-- So are the operators for fields, -/
  operatorsFor : ∀ field, c.operatorsFor field = d.operatorsFor field
  /-- whether they allow one, -/
  allows : ∀ field o, c.allows field o = d.allows field o
  /-- their menus, -/
  menuFor : ∀ field, c.menuFor field = d.menuFor field
  /-- and all operators that they have. -/
  all : c.all = d.all

section Commute

variable {c d : Catalog}

theorem Alike.change (h : Alike c d) (last : Change) : Alike (c.change last) (d.change last) := by
  refine ⟨fun kind => ?_, funext fun category => ?_⟩
  · rw [lookup_change, lookup_change, h.1]
  · rw [operators_change, operators_change, h.2]

theorem Alike.foldl_change (h : Alike c d) (changes : List Change) :
    Alike (changes.foldl Catalog.change c) (changes.foldl Catalog.change d) := by
  induction changes generalizing c d with
  | nil => exact h
  | cons first changes ih => exact ih (h.change first)

theorem Alike.sameAnswers (h : Alike c d) : SameAnswers c d := by
  have hcategory : ∀ kind, c.categoryOf kind = d.categoryOf kind := by
    intro kind
    simp only [Catalog.categoryOf, Category.classify, h.1]
  have hoperators : ∀ field, c.operatorsFor field = d.operatorsFor field := by
    intro field
    rw [Catalog.operatorsFor, hcategory, h.2, Catalog.operatorsFor]
  refine ⟨hcategory, hoperators, fun field o => ?_, fun field => ?_, ?_⟩
  · rw [Catalog.allows, hoperators, Catalog.allows]
  · rw [Catalog.menuFor, hoperators, hcategory, Catalog.menuFor]
  · rw [Catalog.all, h.2, Catalog.all]

/-- Of two changes that are apart, at most one sets the category of a kind. -/
theorem Change.Apart.categoryFor? {a b : Change} (h : a.Apart b) (kind : Kind) :
    a.categoryFor? kind = none ∨ b.categoryFor? kind = none := by
  cases a with
  | allot => exact .inl rfl
  | classify =>
    cases b with
    | allot => exact .inr rfl
    | classify =>
      simp only [Change.categoryFor?, ite_eq_right_iff, reduceCtorEq, imp_false]
      exact not_and_or.mp fun ⟨ha, hb⟩ => h (ha.symm.trans hb)

/-- Of two changes that are apart, at most one sets the operators of a category. -/
theorem Change.Apart.operatorsFor? {a b : Change} (h : a.Apart b) (category : Category) :
    a.operatorsFor? category = none ∨ b.operatorsFor? category = none := by
  cases a with
  | classify => exact .inl rfl
  | allot =>
    cases b with
    | classify => exact .inr rfl
    | allot =>
      simp only [Change.operatorsFor?, ite_eq_right_iff, reduceCtorEq, imp_false]
      exact not_and_or.mp fun ⟨ha, hb⟩ => h (ha.symm.trans hb)

theorem alike_swap {a b : Change} (h : a.Apart b) (c : Catalog) :
    Alike ((c.change a).change b) ((c.change b).change a) := by
  refine ⟨fun kind => ?_, funext fun category => ?_⟩
  · simp only [lookup_change]
    rcases h.categoryFor? kind with hnone | hnone <;> simp [hnone]
  · simp only [operators_change]
    rcases h.operatorsFor? category with hnone | hnone <;> simp [hnone]

/-- **Changes that are apart commute**, whatever comes before and after them. -/
theorem sameAnswers_swap {a b : Change} (h : a.Apart b) (before after : List Change) :
    SameAnswers (changed (before ++ a :: b :: after)) (changed (before ++ b :: a :: after)) := by
  simp only [changed, List.foldl_append, List.foldl_cons]
  exact ((alike_swap h _).foldl_change after).sameAnswers

end Commute

/-! ### All operators -/

theorem mem_addNew_iff {seen : List Operator} {o p : Operator} :
    p ∈ addNew seen o ↔ p ∈ seen ∨ p = o := by
  unfold addNew
  split
  · next h =>
    rw [List.contains_iff_mem] at h
    exact ⟨.inl, fun hp => hp.elim id fun heq => heq ▸ h⟩
  · simp

theorem nodup_addNew {seen : List Operator} (h : seen.Nodup) (o : Operator) : (addNew seen o).Nodup := by
  unfold addNew
  split
  · exact h
  · next hnew =>
    rw [List.contains_iff_mem] at hnew
    rw [← List.concat_eq_append, List.nodup_concat]
    exact ⟨hnew, h⟩

theorem mem_foldl_addNew_iff {operators seen : List Operator} {o : Operator} :
    o ∈ operators.foldl addNew seen ↔ o ∈ seen ∨ o ∈ operators := by
  induction operators generalizing seen with
  | nil => simp
  | cons p operators ih => rw [List.foldl_cons, ih, mem_addNew_iff, List.mem_cons, or_assoc]

theorem nodup_foldl_addNew {operators seen : List Operator} (h : seen.Nodup) :
    (operators.foldl addNew seen).Nodup := by
  induction operators generalizing seen with
  | nil => exact h
  | cons p operators ih => exact ih (nodup_addNew h p)

theorem mem_categories (category : Category) : category ∈ Category.all := by
  cases category <;> decide

theorem mem_all_iff {c : Catalog} {o : Operator} : o ∈ c.all ↔ ∃ category, o ∈ c.operators category := by
  simp [all, mem_foldl_addNew_iff, mem_categories]

theorem nodup_all (c : Catalog) : c.all.Nodup := nodup_foldl_addNew List.nodup_nil

/-! ### Together -/

/-- **What was given last to the nearest kind decides.** After any changes of the standard catalog, the category
of a field's kind is the one given last to the nearest kind of its lineage that has any, its operators are
those given last to this category, and it allows these and no others, whatever is given to another category;
changes of different kinds or categories commute; and all operators are those of the categories, once
each. -/
theorem latest_and_nearest_decide (changes : List Change) :
    (∀ (field : Resolved) (category : Category),
      ((changed changes).categoryOf field.kind = category ↔ Decides changes field.kind category) ∧
        (Decides changes field.kind category → ∀ operators,
          ((changed changes).operatorsFor field = operators ↔ Allots changes category operators) ∧
            (Allots changes category operators →
              ∀ o, (changed changes).allows field o = true ↔ o ∈ operators)) ∧
        (¬ Decides changes field.kind category → ∀ operators o,
          (changed (changes ++ [.allot category operators])).allows field o =
            (changed changes).allows field o)) ∧
      (∀ (a b : Change) (after : List Change), a.Apart b →
        SameAnswers (changed (changes ++ a :: b :: after)) (changed (changes ++ b :: a :: after))) ∧
      (changed changes).all.Nodup ∧
      ∀ o, o ∈ (changed changes).all ↔
        ∃ category operators, Allots changes category operators ∧ o ∈ operators := by
  refine ⟨fun field category => ⟨categoryOf_changed_iff, fun hdecides operators => ?_, ?_⟩,
    fun a b after h => sameAnswers_swap h changes after, nodup_all _, fun o => ?_⟩
  · have hcategory := categoryOf_changed_iff.mpr hdecides
    have hiff : (changed changes).operatorsFor field = operators ↔ Allots changes category operators := by
      rw [operatorsFor, hcategory, operators_changed_iff]
    refine ⟨hiff, fun hallots o => ?_⟩
    rw [allows, hiff.mpr hallots, List.contains_iff_mem]
  · intro hother operators o
    have hne : (changed changes).categoryOf field.kind ≠ category := mt categoryOf_changed_iff.mp hother
    have hcategory : ((changed changes).change (.allot category operators)).categoryOf field.kind =
        (changed changes).categoryOf field.kind := rfl
    rw [changed_concat, allows, operatorsFor, hcategory, operators_change, Change.operatorsFor?, if_neg hne]
    rfl
  · simp only [mem_all_iff, ← operators_changed_iff, exists_eq_left']

/-- Slugs are dates for a while and then identifiers, which are compared whatever the case of letters. -/
def slugChanges : List Change :=
  [.classify .slug .date, .allot .identifier [.iexact], .classify .slug .identifier]

/-- The slug of a product. -/
def slugField : Resolved := ⟨"Product", "slug", { name := "slug", type := .scalar .slug }, .slug, false⟩

theorem latest_and_nearest_decide_slugs :
    Decides slugChanges .slug .identifier ∧ ¬ Decides slugChanges .slug .text ∧
      Allots slugChanges .identifier [.iexact] ∧
      (changed slugChanges).allows slugField .iexact = true ∧
      (changed (slugChanges ++ [.allot .text [.lt]])).allows slugField .lt = false ∧
      Change.Apart (.classify .email .other) (.allot .other [.regex]) ∧
      SameAnswers (changed (slugChanges ++ [.classify .email .other, .allot .other [.regex]]))
        (changed (slugChanges ++ [.allot .other [.regex], .classify .email .other])) := by
  obtain ⟨hfields, hswap, -⟩ := latest_and_nearest_decide slugChanges
  obtain ⟨hcategory, hoperators, -⟩ := hfields slugField .identifier
  have hdecides : Decides slugChanges .slug .identifier := hcategory.mp rfl
  obtain ⟨hoperators, hallows⟩ := hoperators hdecides [.iexact]
  have hallots : Allots slugChanges .identifier [.iexact] := hoperators.mp rfl
  obtain ⟨htext, -, hothers⟩ := hfields slugField .text
  have hother : ¬ Decides slugChanges .slug .text := mt htext.mpr (by decide)
  have hapart : Change.Apart (.classify .email .other) (.allot .other [.regex]) := trivial
  refine ⟨hdecides, hother, hallots, (hallows hallots .iexact).mpr (by decide), ?_, hapart,
    hswap _ _ [] hapart⟩
  rw [hothers hother]
  rfl

end Filterbook.Catalog

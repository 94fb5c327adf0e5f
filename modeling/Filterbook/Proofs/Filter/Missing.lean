import Filterbook.Proofs.Filter.Reached
import Filterbook.Proofs.Filter.Selection
import Mathlib.Data.List.Forall2
import Mathlib.Logic.Relation

/-!
# Null members and missing members

A comparison fails on `null` and has nothing to look at where a member is missing, so that it makes no
difference which of the two a row holds. The test for the null value asks whether nothing is reached, or
some `null`. Of one record that comes to the same; of several it does not: where one record holds a
value, another that lacks the member goes unnoticed, and one that holds `null` does not.

## What is proved

* `Json.forall₂_present_reachBy`: rows that differ by null members reach the same values but for nulls.
* `Filter.nulls_may_be_missing`: a filter without Json operands holds of both or of neither, unless it
  has a null test of which one of the rows reaches a `null` beside a value, and the other none.
* `Filter.null_test_misses_absent`: of two parts one of which has a material, the test finds the other's
  material missing only where it is written as `null`.
-/

namespace Filterbook

namespace Json

variable {u v w : Json}

/-! ### Values that differ by null members -/

/-- A null member is added to an object that lacks it, somewhere in a value. -/
inductive AddsNull : Json → Json → Prop where
  /-- In an object. -/
  | here {before after : List (String × Json)} {name : String}
      (h : (before ++ after).lookup name = none) :
      AddsNull (obj (before ++ after)) (obj (before ++ (name, null) :: after))
  /-- In a member of an object. -/
  | member {before after : List (String × Json)} {name : String} {v w : Json} (h : AddsNull v w) :
      AddsNull (obj (before ++ (name, v) :: after)) (obj (before ++ (name, w) :: after))
  /-- In an item of a list. -/
  | item {before after : List Json} {v w : Json} (h : AddsNull v w) :
      AddsNull (arr (before ++ v :: after)) (arr (before ++ w :: after))

/-- Values that are the same but for members that are null in one and missing in the other. -/
inductive Alike : Json → Json → Prop where
  /-- A value and itself. -/
  | same (v : Json) : Alike v v
  /-- Lists item by item. -/
  | arr {x y : Json} {xs ys : List Json} (hfirst : Alike x y) (hrest : Alike (arr xs) (arr ys)) :
      Alike (arr (x :: xs)) (arr (y :: ys))
  /-- Objects member by member, where a missing member counts as null. -/
  | obj {ms ns : List (String × Json)}
      (h : ∀ name, Alike ((ms.lookup name).getD null) ((ns.lookup name).getD null)) :
      Alike (obj ms) (obj ns)

namespace Alike

theorem symm (h : Alike v w) : Alike w v := by
  induction h with
  | same v => exact .same v
  | arr _ _ ihfirst ihrest => exact .arr ihfirst ihrest
  | obj _ ih => exact .obj ih

theorem trans (hvw : Alike u v) (h : Alike v w) : Alike u w := by
  induction hvw generalizing w with
  | same v => exact h
  | arr hfirst hrest ihfirst ihrest =>
    cases h with
    | same => exact .arr hfirst hrest
    | arr hfirst' hrest' => exact .arr (ihfirst hfirst') (ihrest hrest')
  | obj hmembers ih =>
    cases h with
    | same => exact .obj hmembers
    | obj hmembers' => exact .obj fun name => ih name (hmembers' name)

/-- A member put among others is found where no earlier one has its name. -/
theorem lookup_append_cons (before after : List (String × Json)) (name : String) (v : Json)
    (other : String) :
    (before ++ (name, v) :: after).lookup other =
      ((before.lookup other).or (if other = name then some v else after.lookup other)) := by
  rw [List.lookup_append, List.lookup_cons]
  by_cases h : other = name
  · simp [h]
  · simp [h, beq_eq_false_iff_ne.mpr h]

theorem of_addsNull (h : AddsNull v w) : Alike v w := by
  induction h with
  | @here before after name h =>
    refine .obj fun other => ?_
    rw [lookup_append_cons, List.lookup_append]
    split
    · next hname =>
      rw [List.lookup_append, ← hname] at h
      rw [h]
      cases hbefore : before.lookup other with
      | none => exact .same null
      | some v => simp [hbefore] at h
    · exact .same _
  | @member before after name v w _ ih =>
    refine .obj fun other => ?_
    rw [lookup_append_cons, lookup_append_cons]
    cases before.lookup other with
    | some x => exact .same _
    | none =>
      split
      · exact ih
      · exact .same _
  | @item before after v w _ ih =>
    induction before with
    | nil => exact .arr ih (.same _)
    | cons x before ihbefore => exact .arr (.same x) ihbefore

/-- Null members added and taken out, as often as you like, leave alike what is left. -/
theorem of_eqvGen (h : Relation.EqvGen AddsNull v w) : Alike v w := by
  induction h with
  | rel v w h => exact .of_addsNull h
  | refl v => exact .same v
  | symm v w _ ih => exact ih.symm
  | trans u v w _ _ ihuv ihvw => exact ihuv.trans ihvw

theorem isNull_eq (h : Alike v w) : v.isNull = w.isNull := by cases h <;> rfl

theorem member (h : Alike v w) (name : String) :
    Alike ((v.get? name).getD null) ((w.get? name).getD null) := by
  cases h with
  | same v => exact .same _
  | arr => exact .same null
  | obj h => exact h name

theorem forall₂_spread (h : Alike v w) : List.Forall₂ Alike v.spread w.spread := by
  induction h with
  | same v => exact List.forall₂_same.mpr fun x _ => .same x
  | arr hfirst _ _ ihrest => exact .cons hfirst ihrest
  | obj h => exact .cons (.obj h) .nil

end Alike

/-! ### What alike values reach -/

/-- The values that are not `null`. -/
def present (values : List Json) : List Json := values.filter fun v => !v.isNull

theorem isNull_iff : v.isNull = true ↔ v = null := by cases v <;> simp [isNull]

theorem present_flatMap {α : Type} (f : α → List Json) (xs : List α) :
    present (xs.flatMap f) = xs.flatMap fun x => present (f x) := List.filter_flatMap

theorem present_reachBy_null (segments : List String) : present (reachBy segments null) = [] := by
  cases segments with
  | nil => rfl
  | cons segment rest =>
    rw [reachBy_null (List.cons_ne_nil _ _)]
    rfl

/-- But for nulls, a missing member reaches what a null member does. -/
theorem present_reachBy_cons (segment : String) (rest : List String) (v : Json) :
    present (reachBy (segment :: rest) v) =
      v.spread.flatMap fun x => present (reachBy rest ((x.get? segment).getD null)) := by
  rw [reachBy_cons, present_flatMap]
  refine List.flatMap_congr fun x _ => ?_
  cases x.get? segment with
  | none => exact (present_reachBy_null rest).symm
  | some y => simp

theorem Alike.forall₂_present {vs ws : List Json} (h : List.Forall₂ Alike vs ws) :
    List.Forall₂ Alike (present vs) (present ws) :=
  List.rel_filter (fun _ _ hvw => iff_of_eq (congrArg (fun b => (!b) = true) hvw.isNull_eq)) h

/-- **Alike values reach alike values**, but for nulls. -/
theorem Alike.forall₂_present_reachBy (h : Alike v w) (segments : List String) :
    List.Forall₂ Alike (present (reachBy segments v)) (present (reachBy segments w)) := by
  induction segments generalizing v w with
  | nil =>
    rw [reachBy_nil, reachBy_nil]
    exact forall₂_present h.forall₂_spread
  | cons segment rest ih =>
    rw [present_reachBy_cons, present_reachBy_cons]
    exact List.rel_flatMap h.forall₂_spread fun _ _ hxy => ih (hxy.member segment)

theorem lacks_iff_present {path : String} :
    v.lacks path = true ↔ present (v.reach path) = [] := by
  simp [lacks, present, List.filter_eq_nil_iff]

theorem Alike.lacks_eq (h : Alike v w) (path : String) : v.lacks path = w.lacks path := by
  have hlength := (h.forall₂_present_reachBy (Text.split pathSeparator path)).length_eq
  rw [Bool.eq_iff_iff, lacks_iff_present, lacks_iff_present, ← List.length_eq_zero_iff,
    ← List.length_eq_zero_iff, reach_eq_reachBy, reach_eq_reachBy, hlength]

theorem Alike.null_mem_iff {vs ws : List Json} (h : List.Forall₂ Alike vs ws) :
    null ∈ vs ↔ null ∈ ws := by
  induction h with
  | nil => rfl
  | cons hvw _ ih =>
    rw [List.mem_cons, List.mem_cons, eq_comm, ← isNull_iff, hvw.isNull_eq, isNull_iff, eq_comm, ih]

/-! ### The records that hold the values -/

/-- A value is an object. -/
def isObject : Json → Bool
  | obj _ => true
  | _ => false

/-- The records in which the last segment of a path is looked up. -/
def holders (path : String) (row : Json) : List Json :=
  (reachBy (Text.split pathSeparator path).dropLast row).filter isObject

/-- The last segment of a path. -/
def lastSegment (path : String) : String :=
  (Text.split pathSeparator path).getLast (Text.split_ne_nil pathSeparator path)

theorem reach_eq_holders (path : String) (row : Json) :
    row.reach path =
      (row.holders path).flatMap fun x => (x.get? (lastSegment path)).toList.flatMap spread := by
  have hsegments : (Text.split pathSeparator path).dropLast ++ [lastSegment path] =
      Text.split pathSeparator path := List.dropLast_append_getLast _
  rw [reach_eq_reachBy, ← hsegments, reachBy_concat, holders]
  induction reachBy (Text.split pathSeparator path).dropLast row with
  | nil => rfl
  | cons x values ih =>
    rw [List.flatMap_cons, List.filter_cons, ih]
    cases x <;> rfl

theorem Alike.forall₂_holders (h : Alike v w) (path : String) :
    List.Forall₂ Alike (v.holders path) (w.holders path) := by
  have hpresent : ∀ values, (present values).filter isObject = values.filter isObject := by
    intro values
    rw [present, List.filter_filter]
    congr 1
    funext x
    cases x <;> rfl
  rw [holders, holders, ← hpresent, ← hpresent (reachBy _ w)]
  refine List.rel_filter (fun x y hxy => ?_) (h.forall₂_present_reachBy _)
  cases hxy <;> exact Iff.rfl

/-- Where a path reaches a value at all, `null` is reached in both rows or in neither. -/
def NullsAgree (path : String) (v w : Json) : Prop :=
  v.lacks path = true ∨ (null ∈ v.reach path ↔ null ∈ w.reach path)

/-- In alike records, the values of a member agree on nulls. -/
theorem Alike.member_agrees (h : Alike v w) (name : String) :
    present ((v.get? name).toList.flatMap spread) = [] ∨
      (null ∈ (v.get? name).toList.flatMap spread ↔ null ∈ (w.get? name).toList.flatMap spread) := by
  have hmember := h.member name
  cases hv : v.get? name with
  | none => exact Or.inl rfl
  | some x =>
    rw [hv, Option.getD_some] at hmember
    cases hw : w.get? name with
    | none =>
      rw [hw, Option.getD_none] at hmember
      obtain rfl : x = null := isNull_iff.mp hmember.isNull_eq
      exact Or.inl rfl
    | some y =>
      rw [hw, Option.getD_some] at hmember
      exact Or.inr (by simpa using null_mem_iff hmember.forall₂_spread)

/-- With one record to look in, alike rows agree on nulls. -/
theorem Alike.nullsAgree_of_holders (h : Alike v w) {path : String}
    (hone : (v.holders path).length ≤ 1) : NullsAgree path v w := by
  have hholders := h.forall₂_holders path
  rw [NullsAgree, lacks_iff_present, reach_eq_holders path v, reach_eq_holders path w]
  generalize v.holders path = xs at hholders hone ⊢
  generalize w.holders path = ys at hholders ⊢
  cases hholders with
  | nil => exact Or.inl rfl
  | @cons x y xs ys hxy hrest =>
    obtain rfl : xs = [] := by simpa using hone
    cases hrest
    rw [List.flatMap_singleton, List.flatMap_singleton]
    exact hxy.member_agrees (lastSegment path)

end Json

/-! ### Comparisons -/

section Comparisons

variable {c : Comparator} {operand : Value} {v w : Json}

/-- Only texts, numbers and truth values can be ordered, Json operands apart. -/
theorem Value.order?_eq_none (hjson : ∀ j, operand ≠ .json j) (hv : v.plainText? = none) :
    Value.order? v operand = none := by
  cases v with
  | bool | num | str => cases hv
  | null | arr | obj =>
    cases operand with
    | json j => exact absurd rfl (hjson j)
    | _ => rfl

theorem Comparator.finds_eq_false (hjson : ∀ j, operand ≠ .json j) (hv : v.plainText? = none) :
    c.finds operand v = false := by
  have horder := Value.order?_eq_none hjson hv
  unfold finds
  split
  · simp [hv]
  · cases c <;> simp [holds, horder, hv]

/-- A comparison does not look into objects and lists, unless the operand is a Json value. -/
theorem Json.Alike.finds_eq (h : Json.Alike v w) (hjson : ∀ j, operand ≠ .json j) (c : Comparator) :
    c.finds operand v = c.finds operand w := by
  cases h with
  | same v => rfl
  | arr | obj => rw [Comparator.finds_eq_false hjson rfl, Comparator.finds_eq_false hjson rfl]

theorem Comparator.any_finds_present (c : Comparator) (operand : Value) (values : List Json) :
    (Json.present values).any (c.finds operand) = values.any (c.finds operand) := by
  rw [Json.present, List.any_filter]
  congr 1
  funext v
  cases hnull : v.isNull with
  | false => rfl
  | true =>
    rw [Json.isNull_iff.mp hnull]
    exact (c.finds_null operand).symm

theorem Json.Alike.any_finds_eq {vs ws : List Json} (h : List.Forall₂ Json.Alike vs ws)
    (hjson : ∀ j, operand ≠ .json j) (c : Comparator) :
    vs.any (c.finds operand) = ws.any (c.finds operand) := by
  induction h with
  | nil => rfl
  | cons hvw _ ih => rw [List.any_cons, List.any_cons, hvw.finds_eq hjson, ih]

end Comparisons

namespace Filter

variable {row row' : Json} {c : Comparator} {operand : Value} {path : String}

/-- A comparison that does not ask for absence holds of alike rows alike. -/
theorem leafHolds_of_alike (h : row.Alike row') (hc : c.asksMissing operand = false)
    (hjson : ∀ j, operand ≠ .json j) (path : String) :
    leafHolds c path operand row = leafHolds c path operand row' := by
  rw [leafHolds_eq_any hc, leafHolds_eq_any hc, ← c.any_finds_present operand (row.reach path),
    ← c.any_finds_present operand (row'.reach path)]
  exact Json.Alike.any_finds_eq (h.forall₂_present_reachBy _) hjson c

/-- A null test asks whether there is nothing but nulls, or some null. -/
theorem nullTest_iff :
    leafHolds .eq path .null row = true ↔ row.lacks path = true ∨ .null ∈ row.reach path := by
  have htest : leafHolds .eq path .null row =
      ((row.reach path).isEmpty || (row.reach path).any Json.isNull) := rfl
  rw [htest]
  cases hvalues : row.reach path with
  | nil => simp [Json.lacks, hvalues]
  | cons v values =>
    have hfirst : row.lacks path = true → .null ∈ v :: values := by
      intro hlacks
      rw [Json.lacks, hvalues, List.all_cons, Bool.and_eq_true] at hlacks
      rw [Json.isNull_iff.mp hlacks.1]
      exact List.mem_cons_self ..
    rw [List.isEmpty_cons, Bool.false_or, List.any_eq_true]
    simp only [Json.isNull_iff, exists_eq_right]
    exact ⟨.inr, fun h => h.elim hfirst id⟩

/-- A null test holds of alike rows alike exactly when they agree on nulls. -/
theorem nullTest_eq_iff (h : row.Alike row') :
    leafHolds .eq path .null row = leafHolds .eq path .null row' ↔ Json.NullsAgree path row row' := by
  rw [Bool.eq_iff_iff, nullTest_iff, nullTest_iff, ← h.lacks_eq, Json.NullsAgree]
  by_cases hlacks : row.lacks path = true <;> simp [hlacks]

/-- No operand of a filter is a Json value. -/
def WithoutJson (f : Filter) : Prop := ∀ leaf ∈ f.leaves, ∀ v, leaf.2.2 ≠ .json v

theorem holds_of_alike (h : row.Alike row') {f : Filter} (hjson : f.WithoutJson)
    (hnulls : ∀ path, (.eq, path, .null) ∈ f.leaves → Json.NullsAgree path row row') :
    f.holds row = f.holds row' := by
  refine holds_congr fun (c, path, operand) hleaf => ?_
  cases hc : c.asksMissing operand with
  | false => exact leafHolds_of_alike h hc (hjson _ hleaf) path
  | true =>
    obtain ⟨rfl, rfl⟩ := Comparator.eq_of_asksMissing hc
    exact (nullTest_eq_iff h).mpr (hnulls path hleaf)

/-- **A null member may as well be missing**, at any depth, but for null tests over several records: where
rows differ by null members only, a filter without Json operands holds of both or of neither, provided
that they agree on nulls for the paths of its null tests. A null test by itself needs just that, and rows
agree on nulls wherever there is one record at most for the last segment to be looked up in. -/
theorem nulls_may_be_missing {row row' : Json} (h : Relation.EqvGen Json.AddsNull row row') :
    (∀ f : Filter, f.WithoutJson →
        (∀ path, (.eq, path, .null) ∈ f.leaves → Json.NullsAgree path row row') →
        f.holds row = f.holds row') ∧
      (∀ path, (leaf .eq path .null).holds row = (leaf .eq path .null).holds row' ↔
        Json.NullsAgree path row row') ∧
      ∀ path, (row.holders path).length ≤ 1 → Json.NullsAgree path row row' := by
  have halike : row.Alike row' := .of_eqvGen h
  refine ⟨fun f => holds_of_alike halike, fun path => ?_, fun path => halike.nullsAgree_of_holders⟩
  rw [holds_leaf, holds_leaf]
  exact nullTest_eq_iff halike

/-- A product without a nickname, with a part of steel and one of which nothing is known. -/
def unnamed : Json :=
  .obj [("nickname", .null), ("parts", .arr [.obj [("material", .int 2)], .obj []])]

/-- The same product, written without its null nickname. -/
def bare : Json := .obj [("parts", .arr [.obj [("material", .int 2)], .obj []])]

/-- The same product, with the unknown material written as null. -/
def spelledOut : Json := .obj [("parts", .arr [.obj [("material", .int 2)], .obj [("material", .null)]])]

theorem addsNull_unnamed : Json.AddsNull bare unnamed :=
  @Json.AddsNull.here [] _ _ rfl

theorem addsNull_spelledOut : Json.AddsNull bare spelledOut :=
  @Json.AddsNull.member [] _ _ _ _ (@Json.AddsNull.item [_] _ _ _ (@Json.AddsNull.here [] _ _ rfl))

/-- Products without a nickname and without a part of wood. -/
def noWood : Filter := .all [.leaf .eq "nickname" .null, .not (.leaf .eq "parts__material" (.int 1))]

theorem leaves_noWood :
    noWood.leaves = [(.eq, "nickname", .null), (.eq, "parts__material", .int 1)] := by
  simp [noWood, leaves, leavesOf]

theorem nulls_may_be_missing_unnamed :
    Relation.EqvGen Json.AddsNull unnamed spelledOut ∧ noWood.WithoutJson ∧
      (unnamed.holders "nickname").length ≤ 1 ∧ noWood.holds unnamed = noWood.holds spelledOut := by
  have hrows : Relation.EqvGen Json.AddsNull unnamed spelledOut :=
    .trans _ _ _ (.symm _ _ (.rel _ _ addsNull_unnamed)) (.rel _ _ addsNull_spelledOut)
  have hjson : noWood.WithoutJson := by
    rw [WithoutJson, leaves_noWood]
    simp
  have hnickname : (unnamed.holders "nickname").length ≤ 1 := by decide
  obtain ⟨hsame, -, hone⟩ := nulls_may_be_missing hrows
  refine ⟨hrows, hjson, hnickname, hsame noWood hjson fun path hpath => ?_⟩
  obtain rfl : path = "nickname" := by simpa [leaves_noWood] using hpath
  exact hone "nickname" hnickname

/-- **A null test over several records misses a record without the member**, once another holds a value,
though it finds the same record when the member is written as null. -/
theorem null_test_misses_absent :
    Json.AddsNull bare spelledOut ∧ (leaf .eq "parts__material" .null).WithoutJson ∧
      (leaf .eq "parts__material" .null).holds bare = false ∧
      (leaf .eq "parts__material" .null).holds spelledOut = true := by
  have hjson : (leaf .eq "parts__material" .null).WithoutJson := by
    rw [WithoutJson, leaves]
    simp
  exact ⟨addsNull_spelledOut, hjson, by decide, by decide⟩

end Filter

end Filterbook

import Filterbook.Filter.Sql
import Filterbook.Proofs.Filter.Combinators
import Filterbook.Proofs.Registry.Paths

/-!
# What a path reaches

A path is followed through all records at once: the values reached so far stand in one list, and a
segment replaces each of them by what it reaches. This module reads the same walk record by record.

## What is proved

* `Json.reachBy_cons`, `Json.reachBy_concat`: a path goes on from the member of every record, at its first
  segment as at its last.
* `Json.reachBy_arr`: what is reached through a list of records is what is reached through each, one after
  another.
* `Filter.leafHolds_eq_any`, `Filter.holds_iff_exists`: a comparison asks for some value reached, unless it
  asks for absence.
* `Filter.related_some`: so a comparison across a relation asks for some related record.
-/

namespace Filterbook

namespace Json

variable {segments : List String} {v : Json}

/-! ### Following segments -/

/-- The values that segments reach from a value. -/
def reachBy (segments : List String) (v : Json) : List Json := (follow segments [v]).flatMap spread

theorem reach_eq_reachBy (path : String) (row : Json) :
    row.reach path = reachBy (Text.split pathSeparator path) row := rfl

/-- What is reached from values is what is reached from each, in order. -/
theorem follow_eq_flatMap (segments : List String) (values : List Json) :
    follow segments values = values.flatMap fun v => follow segments [v] := by
  induction segments generalizing values with
  | nil => exact (List.flatMap_singleton' values).symm
  | cons segment rest ih =>
    show follow rest (values.flatMap (step segment)) = _
    rw [ih, List.flatMap_assoc]
    refine List.flatMap_congr fun v _ => ?_
    rw [← ih, ← List.flatMap_singleton (step segment) v]
    rfl

theorem flatMap_spread_follow (segments : List String) (values : List Json) :
    (follow segments values).flatMap spread = values.flatMap (reachBy segments) := by
  rw [follow_eq_flatMap, List.flatMap_assoc]
  rfl

/-- A step looks into every record of a list, or into the one record. -/
theorem step_eq_flatMap (name : String) (v : Json) :
    step name v = v.spread.flatMap fun x => (x.get? name).toList := by
  cases v with
  | arr items => exact List.filterMap_eq_flatMap_toList ..
  | _ => exact (List.append_nil _).symm

theorem reachBy_nil (v : Json) : reachBy [] v = v.spread := List.append_nil _

/-- A path goes on from the member of every record. -/
theorem reachBy_cons (segment : String) (rest : List String) (v : Json) :
    reachBy (segment :: rest) v =
      v.spread.flatMap fun x => (x.get? segment).toList.flatMap (reachBy rest) := by
  have hstep : reachBy (segment :: rest) v = (step segment v).flatMap (reachBy rest) := by
    rw [← flatMap_spread_follow, reachBy, ← List.flatMap_singleton (step segment) v]
    rfl
  rw [hstep, step_eq_flatMap, List.flatMap_assoc]

theorem reachBy_cons_obj (segment : String) (rest : List String) (members : List (String × Json)) :
    reachBy (segment :: rest) (obj members) = (members.lookup segment).toList.flatMap (reachBy rest) := by
  rw [reachBy_cons]
  exact List.append_nil _

/-- Every value is reached by every path in some row. -/
theorem exists_reachBy (segments : List String) (v : Json) : ∃ row, reachBy segments row = v.spread := by
  induction segments with
  | nil => exact ⟨v, reachBy_nil v⟩
  | cons segment rest ih =>
    obtain ⟨row, hrow⟩ := ih
    refine ⟨obj [(segment, row)], ?_⟩
    rw [reachBy_cons_obj, List.lookup_cons_self, ← hrow]
    exact List.append_nil _

/-- Nothing is reached from `null`. -/
theorem reachBy_null (h : segments ≠ []) : reachBy segments null = [] := by
  obtain ⟨segment, rest, rfl⟩ := List.exists_cons_of_ne_nil h
  exact reachBy_cons ..

/-- **What is reached through a list of records** is what is reached through each, in order. -/
theorem reachBy_arr (h : segments ≠ []) {items : List Json}
    (hitems : ∀ x ∈ items, ∃ members, x = obj members) :
    reachBy segments (arr items) = items.flatMap (reachBy segments) := by
  obtain ⟨segment, rest, rfl⟩ := List.exists_cons_of_ne_nil h
  rw [reachBy_cons]
  refine List.flatMap_congr fun x hx => ?_
  obtain ⟨members, rfl⟩ := hitems x hx
  exact (reachBy_cons_obj segment rest members).symm

/-- A last segment goes on from every value reached by the others. -/
theorem reachBy_concat (segments : List String) (last : String) (v : Json) :
    reachBy (segments ++ [last]) v =
      (reachBy segments v).flatMap fun x => (x.get? last).toList.flatMap spread := by
  induction segments generalizing v with
  | nil =>
    have hnil : reachBy [] = spread := funext reachBy_nil
    rw [List.nil_append, reachBy_cons, hnil]
  | cons segment rest ih =>
    rw [List.cons_append, reachBy_cons, reachBy_cons, List.flatMap_assoc]
    refine List.flatMap_congr fun x _ => ?_
    rw [List.flatMap_assoc]
    exact List.flatMap_congr fun y _ => ih y

/-- A path that begins with the name of a member goes on from its value. The name is cut off as one piece
when the mark between segments does not begin in it. -/
theorem reach_member {row : Json} {r : String} (hmark : ¬ pathSeparator.toList <:+: r.toList)
    (hend : ¬ ['_'] <:+ r.toList) (hrow : row.get? r = some v) (p : String) :
    row.reach (r ++ pathSeparator ++ p) = reachBy (Text.split pathSeparator p) v := by
  have hpiece : ¬ pathSeparator.toList <:+: r.toList ++ pathSeparator.toList.dropLast :=
    fun hin => hend ((infix_pair_concat_iff hmark).mp hin)
  have hsplit := Text.split_append (by decide) hpiece p
  cases row with
  | obj members =>
    have hlookup : members.lookup r = some v := hrow
    rw [reach_eq_reachBy, hsplit, reachBy_cons_obj, hlookup]
    simp
  | _ => cases hrow

/-- The name of a member reaches its value, or the values that it lists. -/
theorem reach_name {row : Json} {r : String} (hmark : ¬ pathSeparator.toList <:+: r.toList)
    (hrow : row.get? r = some v) : row.reach r = v.spread := by
  have hsplit : Text.split pathSeparator r = [r] :=
    (Text.split_eq_iff (by decide)).mpr ⟨hmark, String.intercalate_singleton⟩
  cases row with
  | obj members =>
    have hlookup : members.lookup r = some v := hrow
    rw [reach_eq_reachBy, hsplit, reachBy_cons_obj, hlookup]
    simp [reachBy_nil]
  | _ => cases hrow

end Json

/-! ### Comparisons of the values reached -/

/-- Only a comparison with the missing value asks for absence. -/
theorem Comparator.asksMissing_of_ne_null {operand : Value} (h : operand ≠ .null) (c : Comparator) :
    c.asksMissing operand = false :=
  Bool.eq_false_iff.mpr fun hasks => h (eq_of_asksMissing hasks).2

/-- One value reached compares with the operand as wanted. A pattern that is not well formed finds
nothing. -/
def Comparator.finds [Number.DecimalReader] (c : Comparator) (operand : Value) (v : Json) : Bool :=
  if c.usesPattern then
    (c.pattern? operand).any fun e => v.plainText?.any fun s => e.occursIn s.toList
  else c.holds operand v

theorem Comparator.holds_null (c : Comparator) (operand : Value) : c.holds operand .null = false := by
  have horder : Value.order? .null operand = none := by cases operand <;> rfl
  cases c <;> simp [holds, horder, Json.plainText?]

theorem Comparator.finds_null (c : Comparator) (operand : Value) : c.finds operand .null = false := by
  unfold finds
  split
  · cases c.pattern? operand <;> simp [Json.plainText?]
  · exact c.holds_null operand

namespace Filter

variable {c : Comparator} {operand : Value}

/-- A comparison that does not ask for absence asks for some value that compares as wanted. -/
theorem leafHolds_eq_any [Number.DecimalReader] (hc : c.asksMissing operand = false) (path : String) (row : Json) :
    leafHolds c path operand row = (row.reach path).any (c.finds operand) := by
  unfold Comparator.asksMissing at hc
  simp only [leafHolds, hc, Bool.false_eq_true, if_false]
  unfold Comparator.finds
  split
  · cases c.pattern? operand with
    | none => simp
    | some e => simp
  · rfl

/-- So it holds when it finds some value that is reached. -/
theorem holds_iff_exists {path : String} {row : Json} (hc : c.asksMissing operand = false) :
    (leaf c path operand).holds row = true ↔
      ∃ stored ∈ row.reach path, c.finds operand stored = true := by
  rw [holds_leaf, leafHolds_eq_any hc, List.any_eq_true]

/-- On a row where the path reaches one value, that value decides. -/
theorem holds_of_reach [Number.DecimalReader] {path : String} {row stored : Json} (hreach : row.reach path = [stored])
    (hnull : operand ≠ .null) (c : Comparator) :
    (leaf c path operand).holds row = c.finds operand stored := by
  rw [holds_leaf, leafHolds_eq_any (Comparator.asksMissing_of_ne_null hnull c), hreach, List.any_cons,
    List.any_nil, Bool.or_false]

/-- A comparison on the path of a related record goes on from the member that holds the record. -/
theorem holds_member {row v : Json} {r : String} (hc : c.asksMissing operand = false)
    (hmark : ¬ pathSeparator.toList <:+: r.toList) (hend : ¬ ['_'] <:+ r.toList)
    (hrow : row.get? r = some v) (p : String) :
    (leaf c (r ++ pathSeparator ++ p) operand).holds row =
      (Json.reachBy (Text.split pathSeparator p) v).any (c.finds operand) := by
  rw [holds_leaf, leafHolds_eq_any hc, Json.reach_member hmark hend hrow]

/-- Across a list of records, a comparison holds when it holds of some record. -/
theorem holds_list {row : Json} {r : String} {xs : List Json} (hc : c.asksMissing operand = false)
    (hmark : ¬ pathSeparator.toList <:+: r.toList) (hend : ¬ ['_'] <:+ r.toList)
    (hrow : row.get? r = some (.arr xs)) (hxs : ∀ x ∈ xs, ∃ members, x = .obj members) (p : String) :
    (leaf c (r ++ pathSeparator ++ p) operand).holds row = xs.any (leaf c p operand).holds := by
  have hrecord : ∀ x, (leaf c p operand).holds x =
      (Json.reachBy (Text.split pathSeparator p) x).any (c.finds operand) := fun x => by
    rw [holds_leaf, leafHolds_eq_any hc, Json.reach_eq_reachBy]
  rw [holds_member hc hmark hend hrow, Json.reachBy_arr (Text.split_ne_nil pathSeparator p) hxs,
    List.any_flatMap]
  simp only [hrecord]

/-- **A comparison across a relation asks for some related record**: it holds when it holds of one of the
records, in whatever order and however often they are listed, and its negation when it holds of none.
Across a relation to one record it is the comparison on that record. -/
theorem related_some {c : Comparator} {operand : Value} (hc : ¬ (c = .eq ∧ operand = .null)) {r : String}
    (hmark : ¬ pathSeparator.toList <:+: r.toList) (hend : ¬ ['_'] <:+ r.toList) (p : String) :
    (∀ row xs, row.get? r = some (.arr xs) → (∀ x ∈ xs, ∃ members, x = .obj members) →
      ((leaf c (r ++ pathSeparator ++ p) operand).holds row = true ↔
          ∃ x ∈ xs, (leaf c p operand).holds x = true) ∧
        ((not (leaf c (r ++ pathSeparator ++ p) operand)).holds row = true ↔
          ∀ x ∈ xs, (leaf c p operand).holds x = false) ∧
        ∀ row' ys, row'.get? r = some (.arr ys) → (∀ x, x ∈ ys ↔ x ∈ xs) →
          (leaf c (r ++ pathSeparator ++ p) operand).holds row' =
            (leaf c (r ++ pathSeparator ++ p) operand).holds row) ∧
      ∀ row members, row.get? r = some (.obj members) →
        (leaf c (r ++ pathSeparator ++ p) operand).holds row =
            (leaf c p operand).holds (.obj members) ∧
          (not (leaf c (r ++ pathSeparator ++ p) operand)).holds row =
            !(leaf c p operand).holds (.obj members) := by
  have hasks : c.asksMissing operand = false :=
    Bool.eq_false_iff.mpr fun h => hc (Comparator.eq_of_asksMissing h)
  refine ⟨fun row xs hrow hxs => ?_, fun row members hrow => ?_⟩
  · have hholds := holds_list hasks hmark hend hrow hxs p
    refine ⟨by rw [hholds, List.any_eq_true], ?_, fun row' ys hrow' hsame => ?_⟩
    · rw [holds_not, hholds, Bool.not_eq_true', List.any_eq_false]
      simp only [Bool.not_eq_true]
    · have hys : ∀ x ∈ ys, ∃ members, x = .obj members := fun x hx => hxs x ((hsame x).mp hx)
      rw [hholds, holds_list hasks hmark hend hrow' hys, Bool.eq_iff_iff, List.any_eq_true,
        List.any_eq_true]
      exact exists_congr fun x => and_congr_left' (hsame x)
  · have hholds : (leaf c (r ++ pathSeparator ++ p) operand).holds row =
        (leaf c p operand).holds (.obj members) := by
      rw [holds_member hasks hmark hend hrow, holds_leaf, leafHolds_eq_any hasks, Json.reach_eq_reachBy]
    rw [holds_not, hholds]
    exact ⟨rfl, rfl⟩

/-- A product with a steel wheel and a wooden strap. -/
def skates : Json :=
  .obj [("parts", .arr [.obj [("material", .int 2)], .obj [("material", .int 1)]])]

theorem related_some_skates :
    ¬ (Comparator.eq = .eq ∧ Value.int 1 = .null) ∧ ¬ (Comparator.eq = .eq ∧ Value.int 3 = .null) ∧
      ¬ pathSeparator.toList <:+: "parts".toList ∧ ¬ ['_'] <:+ "parts".toList ∧
      (leaf .eq "parts__material" (.int 1)).holds skates = true ∧
      (not (leaf .eq "parts__material" (.int 3))).holds skates = true := by
  have hmark : ¬ pathSeparator.toList <:+: "parts".toList := by decide
  have hend : ¬ ['_'] <:+ "parts".toList := by decide
  have hparts : ∀ x ∈ [Json.obj [("material", .int 2)], .obj [("material", .int 1)]],
      ∃ members, x = .obj members := by simp
  have hwood : ¬ (Comparator.eq = .eq ∧ Value.int 1 = .null) := nofun
  have hglass : ¬ (Comparator.eq = .eq ∧ Value.int 3 = .null) := nofun
  obtain ⟨hsome, -⟩ := related_some hwood hmark hend "material"
  obtain ⟨hnone, -⟩ := related_some hglass hmark hend "material"
  refine ⟨hwood, hglass, hmark, hend, (hsome skates _ rfl hparts).1.mpr ?_,
    (hnone skates _ rfl hparts).2.1.mpr ?_⟩
  · exact ⟨_, List.mem_cons_of_mem _ (List.mem_singleton_self _), by decide⟩
  · decide

end Filter

end Filterbook

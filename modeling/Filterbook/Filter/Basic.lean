import Filterbook.Value.Basic

/-!
# Filters

A condition on rows: comparisons of the values at a path with an operand, joined by conjunction,
disjunction and negation. The filter `always` holds of every row. The joining functions leave out what
makes no difference, so that a filter built by them holds no empty or single-membered lists.
-/

namespace Filterbook

/-- How a value is compared with the operand. -/
inductive Comparator where
  /-- Equal. -/
  | eq
  /-- Equal, whatever the case of letters. -/
  | ieq
  /-- Less. -/
  | lt
  /-- Less or equal. -/
  | lte
  /-- Greater. -/
  | gt
  /-- Greater or equal. -/
  | gte
  /-- The operand's text occurs in the value's. -/
  | contains
  /-- The operand's text occurs in the value's, whatever the case of letters. -/
  | icontains
  /-- The operand's text is a pattern that occurs in the value's. -/
  | regex
  /-- The operand's text is a pattern that occurs in the value's, whatever the case of letters. -/
  | iregex
  deriving DecidableEq, Repr

/-- A condition on rows. -/
inductive Filter where
  /-- Every row. -/
  | always
  /-- Some value at the path compares with the operand. Equality with the null value asks instead
  whether a value is missing. -/
  | leaf (comparator : Comparator) (path : String) (operand : Value)
  /-- All of the filters. -/
  | all (filters : List Filter)
  /-- One of the filters. -/
  | any (filters : List Filter)
  /-- Not the filter. -/
  | not (filter : Filter)

namespace Filter

/-- What holds of comparisons and is kept by conjunction, disjunction and negation holds of every filter.
The members of a list are filters of their own, so they come with the statement about each. -/
@[elab_as_elim, induction_eliminator]
theorem induction {P : Filter → Prop} (always : P always)
    (leaf : ∀ comparator path operand, P (leaf comparator path operand))
    (all : ∀ filters, (∀ f ∈ filters, P f) → P (all filters))
    (any : ∀ filters, (∀ f ∈ filters, P f) → P (any filters))
    (not : ∀ filter, P filter → P (not filter)) (f : Filter) : P f :=
  match f with
  | .always => always
  | .leaf comparator path operand => leaf comparator path operand
  | .all filters => all filters fun g _ => induction always leaf all any not g
  | .any filters => any filters fun g _ => induction always leaf all any not g
  | .not g => not g (induction always leaf all any not g)

/-- The filter holds of every row by its form. -/
def isAlways : Filter → Bool
  | always => true
  | _ => false

/-- All of the filters, those left out that hold always. -/
def conjunction (filters : List Filter) : Filter :=
  match filters.filter fun f => !f.isAlways with
  | [] => always
  | [f] => f
  | fs => all fs

/-- One of the filters; always, when there is none or one of them holds always. -/
def disjunction (filters : List Filter) : Filter :=
  if filters.isEmpty || filters.any isAlways then always
  else match filters with
    | [f] => f
    | fs => any fs

/-- Not the filter, except that what holds always is kept. -/
def negation (f : Filter) : Filter :=
  match f with
  | always => always
  | f => not f

/-- Both filters; a conjunction on the left takes the right one in. -/
def andThen (f g : Filter) : Filter :=
  match f, g with
  | always, g => g
  | f, always => f
  | all fs, g => all (fs ++ [g])
  | f, g => all [f, g]

/-- Either filter; a disjunction on the left takes the right one in. -/
def orElse (f g : Filter) : Filter :=
  match f, g with
  | always, _ => always
  | _, always => always
  | any fs, g => any (fs ++ [g])
  | f, g => any [f, g]

mutual

/-- The comparisons of a filter, from left to right. -/
def leaves : Filter → List (Comparator × String × Value)
  | always => []
  | leaf c path operand => [(c, path, operand)]
  | all fs => leavesOf fs
  | any fs => leavesOf fs
  | not f => leaves f

/-- The comparisons of several filters, from left to right. -/
def leavesOf : List Filter → List (Comparator × String × Value)
  | [] => []
  | f :: fs => leaves f ++ leavesOf fs

end

theorem leavesOf_eq_flatMap (fs : List Filter) : leavesOf fs = fs.flatMap leaves := by
  induction fs with
  | nil => rfl
  | cons f fs ih => rw [leavesOf, ih, List.flatMap_cons]

theorem forall_leavesOf {P : Comparator × String × Value → Prop} {fs : List Filter} :
    (∀ leaf ∈ leavesOf fs, P leaf) ↔ ∀ f ∈ fs, ∀ leaf ∈ f.leaves, P leaf := by
  rw [leavesOf_eq_flatMap]
  constructor
  · intro h f hf leaf hleaf
    exact h leaf (List.mem_flatMap.mpr ⟨f, hf, hleaf⟩)
  · intro h leaf hleaf
    obtain ⟨f, hf, hleaf⟩ := List.mem_flatMap.mp hleaf
    exact h f hf leaf hleaf

/-- The number of comparisons. -/
def leafCount (f : Filter) : Nat := f.leaves.length

end Filter

end Filterbook

import Filterbook.Operator
import Filterbook.Registry.Resolved

/-!
# The catalog of operators

Which operators each category of fields allows, and which category each kind belongs to. The standard
catalog can be changed kind by kind and category by category; the latest change counts.
-/

namespace Filterbook

/-- The operators that each category allows, and the categories of kinds. -/
structure Catalog where
  /-- The categories of kinds; the first entry of a kind counts. -/
  table : List (Kind × Category)
  /-- The operators of each category, in the order of menus. -/
  operators : Category → List Operator

namespace Catalog

/-- The operators that a category allows from the start. -/
def standardOperators : Category → List Operator
  | .boolean => [.isTrue, .isFalse, .isNull]
  | .text => [.exact, .iexact, .contains, .icontains, .regex, .iregex, .isEmpty, .isNull]
  | .numeric => [.exact, .lt, .gt, .lte, .gte, .isNull]
  | .date => [.exact, .lt, .gt, .lte, .gte, .isNull]
  | .identifier => [.exact, .isNull]
  | .other => [.exact, .isNull]

/-- The catalog before any change. -/
def standard : Catalog := ⟨Category.standardTable, standardOperators⟩

/-- The catalog with a kind given a category, before all other entries. -/
def withKind (c : Catalog) (kind : Kind) (category : Category) : Catalog :=
  { c with table := (kind, category) :: c.table.filter fun e => e.1 ≠ kind }

/-- The catalog with the operators of a category replaced. -/
def withOperators (c : Catalog) (category : Category) (operators : List Operator) : Catalog :=
  { c with operators := fun k => if k = category then operators else c.operators k }

/-- The category of a kind. -/
def categoryOf (c : Catalog) (kind : Kind) : Category := Category.classify c.table kind

/-- The operators allowed on a field. -/
def operatorsFor (c : Catalog) (field : Resolved) : List Operator :=
  c.operators (c.categoryOf field.kind)

/-- An operator may be used on a field. -/
def allows (c : Catalog) (field : Resolved) (o : Operator) : Bool := (c.operatorsFor field).contains o

/-- An operator added at the end of a list unless it is there already. -/
def addNew (seen : List Operator) (o : Operator) : List Operator :=
  if seen.contains o then seen else seen ++ [o]

/-- Every operator that some category allows, once each, in the order in which they first come. -/
def all (c : Catalog) : List Operator := (Category.all.flatMap c.operators).foldl addNew []

/-- The operators allowed on a field, each with the words shown for it. -/
def menuFor (c : Catalog) (field : Resolved) : List (Operator × String) :=
  (c.operatorsFor field).map fun o => (o, o.label (c.categoryOf field.kind))

end Catalog

end Filterbook

import Filterbook.Catalog
import Filterbook.QueryError
import Filterbook.Roster
import Filterbook.Text.Case

/-!
# Field data

What an editing form needs to offer valid clauses for a model: the paths with the words shown for
them, and for each path its operators and its fixed values.
-/

namespace Filterbook

/-- Words for the paths of a form, or whatever else goes with a path. -/
abbrev PerPath (α : Type) := Roster (String × α) Prod.fst

/-- What a form offers. -/
structure FieldData where
  /-- The paths with the words shown for them. -/
  labels : PerPath String := .empty
  /-- The operators of each path with the words shown for them. -/
  operators : PerPath (List (Operator × String)) := .empty
  /-- The fixed values of the paths that have any, with the words shown for them. -/
  values : PerPath (List (String × String)) := .empty

/-- The words of a text with their first letters raised and all others lowered. -/
def titleCase (s : String) : String := String.ofList (Text.titleFrom false s.toList)

/-- The paths that a form offers for a model, with words of their own: those exposed, or every field
with values when none are. -/
def Model.offeredPaths (m : Model) : List (String × Option String) :=
  if m.filterFields.isEmpty then m.scalarFields.map fun f => (f.name, none)
  else m.filterFields.map fun f => (f.path, f.label?)

/-- A path added to what a form offers. -/
def FieldData.add (catalog : Catalog) (d : FieldData) (path : String) (label? : Option String)
    (field : Resolved) : FieldData where
  labels := d.labels.insert (path, label?.getD (titleCase field.field.displayName))
  operators := d.operators.insert (path, catalog.menuFor field)
  values :=
    if field.field.choices.isEmpty then d.values
    else d.values.insert
      (path, field.field.choices.map fun c => (c.value, c.label ++ " (" ++ c.value ++ ")"))

/-- What a form offers for a model. It fails at the first exposed path that leads nowhere. -/
def fieldData (r : Registry) (catalog : Catalog) (model : String) : Except QueryError FieldData :=
  let collect : Except RegistryError FieldData := do
    let target ← r.model model
    target.offeredPaths.foldlM (fun d (path, label?) => do
      .ok (d.add catalog path label? (← r.resolve model path))) {}
  collect.mapError .ofRegistry

end Filterbook

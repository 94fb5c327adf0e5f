import Filterbook.Registry.Field
import Filterbook.Roster

/-!
# The registry

The models that filters may aim at, with the paths that each exposes. Models and fields are told apart
by their names and keep the order of their declaration.
-/

namespace Filterbook

/-- A path exposed for filtering, with words of its own if it has any. -/
structure FilterField where
  /-- The path. -/
  path : String
  /-- The words shown for it. -/
  label? : Option String := none
  deriving DecidableEq, Repr

/-- A kind of content with its fields. -/
structure Model where
  /-- The name. -/
  name : String
  /-- The name for persons, if there is one. -/
  verboseName? : Option String := none
  /-- The fields. -/
  fields : Roster Field Field.name := .empty
  /-- The exposed paths; every path when there are none. -/
  filterFields : List FilterField := []

/-- The models of a site. -/
structure Registry where
  /-- The models. -/
  models : Roster Model Model.name := .empty

namespace Model

/-- The name for persons: the given one, or the name itself. -/
def displayName (m : Model) : String := m.verboseName?.getD m.name

/-- The field with a name. -/
def field? (m : Model) (name : String) : Option Field := m.fields.get? name

/-- The fields that lead to other models. -/
def relationFields (m : Model) : List Field := m.fields.entries.filter (·.isRelation)

/-- The fields that hold values. -/
def scalarFields (m : Model) : List Field := m.fields.entries.filter fun f => !f.isRelation

/-- A path may be used in a filter of this model. -/
def allowsPath (m : Model) (path : String) : Bool :=
  m.filterFields.isEmpty || m.filterFields.any (·.path == path)

end Model

namespace FilterField

/-- The Json form of an exposed path. -/
def toJson (f : FilterField) : Json :=
  .obj (("path", .str f.path) :: f.label?.toList.map fun s => ("label", .str s))

/-- The exposed path that a Json value writes. -/
def ofJson? (j : Json) : Option FilterField := do
  let ms ← Json.Shape.members? ⟨["path", "label"], 1, false⟩ j
  some ⟨← Json.required ms "path" Json.text?, ← Json.optional ms "label" Json.text?⟩

end FilterField

namespace Model

/-- The Json form of a model. -/
def toJson (m : Model) : Json :=
  .obj (("name", .str m.name) :: (m.verboseName?.toList.map fun s => ("verbose_name", .str s)) ++
    ("fields", .arr (m.fields.entries.map Field.toJson)) ::
    (if m.filterFields.isEmpty then []
      else [("filter_fields", .arr (m.filterFields.map FilterField.toJson))]))

/-- The model that a Json value writes. Of fields with one name, the last counts. -/
def ofJson? (j : Json) : Option Model := do
  let ms ← Json.Shape.members? ⟨["name", "verbose_name", "fields", "filter_fields"], 1, false⟩ j
  some {
    name := ← Json.required ms "name" Json.text?
    verboseName? := ← Json.optional ms "verbose_name" Json.text?
    fields := .ofList (← Json.defaulted ms "fields" (Json.list? Field.ofJson?) [])
    filterFields := ← Json.defaulted ms "filter_fields" (Json.list? FilterField.ofJson?) [] }

end Model

namespace Registry

/-- The model with a name. -/
def model? (r : Registry) (name : String) : Option Model := r.models.get? name

/-- There is a model with this name. -/
def contains (r : Registry) (name : String) : Bool := r.models.contains name

/-- The names of the models. -/
def modelNames (r : Registry) : List String := r.models.keys

/-- The registry with a model put in. -/
def insert (r : Registry) (m : Model) : Registry := ⟨r.models.insert m⟩

/-- The registry with the models of another put in. -/
def merge (r other : Registry) : Registry := ⟨r.models.insertAll other.models.entries⟩

/-- The Json form of a registry. -/
def toJson (r : Registry) : Json := .obj [("models", .arr (r.models.entries.map Model.toJson))]

/-- The registry that a Json value writes. Of models with one name, the last counts. -/
def ofJson? (j : Json) : Option Registry := do
  let ms ← Json.Shape.members? ⟨["models"], 0, false⟩ j
  some ⟨.ofList (← Json.defaulted ms "models" (Json.list? Model.ofJson?) [])⟩

end Registry

end Filterbook

import Filterbook.Registry.Basic
import Filterbook.Registry.Error

/-!
# Resolving paths

A path names a scalar field, reached over relations: its segments, between double underscores, are
fields of one model after another. It fails at the first segment that names no field, or a field that
cannot stand there.
-/

namespace Filterbook

/-- The mark between the segments of a path. -/
def pathSeparator : String := "__"

/-- The field at the end of a path. -/
structure Resolved where
  /-- The model that the path starts from. -/
  model : String
  /-- The path as written. -/
  path : String
  /-- The field. -/
  field : Field
  /-- The kind of its values. -/
  kind : Kind
  /-- A relation on the way leads to several records. -/
  multiValued : Bool
  deriving DecidableEq

namespace Registry

/-- The model with a name, or an error that there is none. -/
def model (r : Registry) (name : String) : Except RegistryError Model :=
  match r.model? name with
  | some m => .ok m
  | none => .error (.unknownModel name)

theorem model_eq_ok_iff {r : Registry} {name : String} {m : Model} :
    r.model name = .ok m ↔ m ∈ r.models.entries ∧ m.name = name := by
  rw [← Roster.get?_eq_some_iff, model, model?]
  cases r.models.get? name <;> simp

/-- The field at the end of the segments that follow a model, and whether a relation on the way leads to
several records. -/
def walk (r : Registry) (path : String) : (segments : List String) → Model → (multiValued : Bool) →
    Except RegistryError (Field × Bool)
  | [], m, _ => .error (.unknownField m.name path "")
  | segment :: rest, m, multiValued =>
    match m.field? segment with
    | none => .error (.unknownField m.name path segment)
    | some f =>
      match f.type, rest with
      | .scalar _, [] => .ok (f, multiValued)
      | .relation _, [] => .error (.invalidPath m.name f.name path .endsOnRelation)
      | .scalar _, _ :: _ => .error (.invalidPath m.name f.name path .notRelation)
      | .relation target, _ :: _ => do
        r.walk path rest (← r.model target) (multiValued || f.modifier.isList)

/-- The field that a path names from a model. A field without a kind would count as short text. -/
def resolve (r : Registry) (modelName path : String) : Except RegistryError Resolved := do
  let start ← r.model modelName
  let (field, multiValued) ← r.walk path (Text.split pathSeparator path) start false
  .ok ⟨start.name, path, field, field.type.kind?.getD .string, multiValued⟩

end Registry

end Filterbook

import Filterbook.Kind
import Filterbook.Json.Record
import Filterbook.Text.Split

/-!
# Fields

A field of a model holds scalar values of a kind or relates to another model. Its Json form names one
of the two beside the other members; of both, the one written first counts.
-/

namespace Filterbook

/-- One value of a field with a fixed set of values. -/
structure Choice where
  /-- The stored value. -/
  value : String
  /-- The words shown for it. -/
  label : String
  deriving DecidableEq, Repr

/-- What a field holds. -/
inductive FieldType where
  /-- Values of a kind. -/
  | scalar (kind : Kind)
  /-- Records of another model. -/
  | relation (model : String)
  deriving DecidableEq, Repr

/-- How many values a field holds. -/
inductive Modifier where
  /-- Exactly one. -/
  | required
  /-- One or none. -/
  | optional
  /-- Several. -/
  | list
  /-- Several or nothing. -/
  | optionalList
  deriving DecidableEq, Repr

namespace Modifier

/-- The name of a modifier. -/
def name : Modifier → String
  | required => "required"
  | optional => "optional"
  | list => "list"
  | optionalList => "optional_list"

/-- The modifier with this name. -/
def ofName? (s : String) : Option Modifier :=
  [required, optional, list, optionalList].find? (·.name == s)

/-- The field may hold nothing. -/
def isOptional : Modifier → Bool
  | optional => true
  | optionalList => true
  | _ => false

/-- The field may hold several values. -/
def isList : Modifier → Bool
  | list => true
  | optionalList => true
  | _ => false

end Modifier

/-- A field of a model. -/
structure Field where
  /-- The name. -/
  name : String
  /-- The name for persons, if there is one. -/
  verboseName? : Option String := none
  /-- What it holds. -/
  type : FieldType
  /-- How many values it holds. -/
  modifier : Modifier := .required
  /-- Its fixed values; none when any value will do. -/
  choices : List Choice := []
  deriving DecidableEq, Repr

namespace FieldType

/-- The kind of a scalar field. -/
def kind? : FieldType → Option Kind
  | scalar kind => some kind
  | relation _ => none

/-- The model that a relation leads to. -/
def model? : FieldType → Option String
  | scalar _ => none
  | relation model => some model

/-- The name of the kind or of the model. -/
def name : FieldType → String
  | scalar kind => kind.name
  | relation model => model

end FieldType

namespace Field

/-- The field leads to another model. -/
def isRelation (f : Field) : Bool := f.type.model?.isSome

/-- The name for persons: the given one, or the field's name with spaces for underscores. -/
def displayName (f : Field) : String :=
  f.verboseName?.getD (Text.replace "_" " " f.name)

/-- The field when it may also hold nothing. -/
def optional (f : Field) : Field :=
  { f with modifier := if f.modifier.isList then .optionalList else .optional }

/-- The name, the type, and marks for several values and for none. -/
def text (f : Field) : String :=
  let mark := match f.modifier with
    | .required => ""
    | .optional => "?"
    | .list => "[]"
    | .optionalList => "[]?"
  f.name ++ " " ++ f.type.name ++ mark

end Field

namespace Choice

/-- The Json form of a choice. -/
def toJson (c : Choice) : Json := .obj [("value", .str c.value), ("label", .str c.label)]

/-- The choice that a Json value writes. -/
def ofJson? (j : Json) : Option Choice := do
  let ms ← Json.Shape.members? ⟨["value", "label"], 2, false⟩ j
  some ⟨← Json.required ms "value" Json.text?, ← Json.required ms "label" Json.text?⟩

end Choice

namespace FieldType

/-- The member that tells the type. -/
def toMember : FieldType → String × Json
  | scalar kind => ("scalar", .str kind.name)
  | relation model => ("relation", .str model)

/-- The kind named by a Json value. -/
def kindOfJson? (j : Json) : Option Kind :=
  match j with
  | .obj [(name, .obj [])] => Kind.ofName? name
  | j => j.choice?.bind Kind.ofName?

/-- The type told by the first member that tells one. -/
def ofMembers? : List (String × Json) → Option FieldType
  | [] => none
  | (name, v) :: rest =>
    if name = "scalar" then (kindOfJson? v).map scalar
    else if name = "relation" then v.text?.map relation
    else ofMembers? rest

end FieldType

namespace Field

/-- The Json form of a field. A missing name for persons and a missing set of values are left out. -/
def toJson (f : Field) : Json :=
  .obj (("name", .str f.name) :: (f.verboseName?.toList.map fun s => ("verbose_name", .str s)) ++
    f.type.toMember :: ("modifier", .str f.modifier.name) ::
    (if f.choices.isEmpty then [] else [("choices", .arr (f.choices.map Choice.toJson))]))

/-- The field that a Json object writes. -/
def ofJson? (j : Json) : Option Field :=
  match j with
  | .obj members => do
    let ms ← Json.Shape.members? ⟨["name", "verbose_name", "modifier", "choices"], 0, false⟩ j
    some {
      name := ← Json.required ms "name" Json.text?
      verboseName? := ← Json.optional ms "verbose_name" Json.text?
      type := ← FieldType.ofMembers? members
      modifier := ← Json.defaulted ms "modifier" (fun v => v.choice?.bind Modifier.ofName?) .required
      choices := ← Json.defaulted ms "choices" (Json.list? Choice.ofJson?) [] }
  | _ => none

end Field

end Filterbook

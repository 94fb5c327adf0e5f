import Filterbook.Registry.Resolved
import Filterbook.Json.Parser
import Filterbook.Toml.Reader

/-!
# Reading and checking registries

A registry is read from Toml or Json text and checked as a whole, so that filters may rely on every
relation to lead somewhere and on every exposed path to name a scalar field. All errors are reported,
model by model in their order.
-/

namespace Filterbook

/-- The field text that marks a separator between clauses. -/
def separatorText : String := "_OR"

/-- The items of a list that came before in it, once for each time that they come again. -/
def repeats (seen : List String) : List String → List String
  | [] => []
  | s :: ss => if seen.contains s then s :: repeats seen ss else repeats (s :: seen) ss

namespace Field

/-- What is wrong with the name of a field. -/
def nameFault? (f : Field) : Option FieldFault :=
  if f.name = "" then some .unnamed
  else if Text.contains pathSeparator f.name then some .holdsSeparator
  else if f.name = separatorText then some .reservedName
  else none

/-- What is wrong with a field as a relation. -/
def relationFaults (r : Registry) (f : Field) : List FieldFault :=
  match f.type with
  | .scalar _ => []
  | .relation target =>
    (if r.contains target then [] else [.unknownTarget target]) ++
      (if f.choices.isEmpty then [] else [.relationWithChoices])

/-- What is wrong with a field of a model. -/
def errors (r : Registry) (model : String) (f : Field) : List RegistryError :=
  (f.nameFault?.toList ++ f.relationFaults r).map (.invalidField model f.name ·) ++
    (repeats [] (f.choices.map (·.value))).map fun value =>
      .duplicate "choice" (model ++ "." ++ f.name ++ " = " ++ value)

end Field

namespace Model

/-- What is wrong with the paths that a model exposes: one declared again, or one that leads
nowhere. -/
def pathErrors (r : Registry) (model : String) (seen : List String) :
    List FilterField → List RegistryError
  | [] => []
  | f :: rest =>
    (if seen.contains f.path then [.duplicate "filter field" f.path] else []) ++
      (match r.resolve model f.path with
        | .ok _ => []
        | .error e => [e]) ++
      pathErrors r model (f.path :: seen) rest

/-- What is wrong with a model. -/
def errors (r : Registry) (m : Model) : List RegistryError :=
  (if m.name = "" then [.invalidModel "" .unnamed] else []) ++
    (if m.fields.entries.isEmpty then [.invalidModel m.name .noFields] else []) ++
    m.fields.entries.flatMap (·.errors r m.name) ++
    pathErrors r m.name [] m.filterFields

end Model

namespace Registry

/-- All that is wrong with a registry. -/
def errors (r : Registry) : List RegistryError := r.models.entries.flatMap (·.errors r)

/-- The registry itself when nothing is wrong with it. -/
def validate (r : Registry) : Except RegistryError Registry :=
  match r.errors with
  | [] => .ok r
  | errors => .error (.several errors)

/-- The registry that a Toml text writes. -/
def ofToml (text : String) : Except RegistryError Registry :=
  match (Toml.read? text).bind ofJson? with
  | some r => .ok r
  | none => .error .toml

/-- The registry that a Json text writes. -/
def ofJsonText (text : String) : Except RegistryError Registry :=
  match (Json.read? text).bind ofJson? with
  | some r => .ok r
  | none => .error .json

/-- The part of a file name after its last point, unless the name only begins with one. -/
def extension? (name : String) : Option String :=
  match Text.splitChars ['.'] name.toList with
  | [_] => none
  | [[], _] => none
  | parts => parts.getLast?.map String.ofList

/-- The registry that a file holds: Json when its name ends so, Toml otherwise. A file that cannot be
read has no content. -/
def ofFile (name : String) (content? : Option String) : Except RegistryError Registry :=
  match content? with
  | none => .error (.unreadable name)
  | some text => if extension? name = some "json" then ofJsonText text else ofToml text

end Registry

end Filterbook

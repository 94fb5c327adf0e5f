import Filterbook.Value.Conversion

/-!
# Errors of the registry

What can be wrong with a registry, with a path through it, or with the settings, each with the words
shown for it and a code.
-/

namespace Filterbook

/-- Why a field cannot stand where it stands in a path. -/
inductive PathFault where
  /-- The path ends on a relation. -/
  | endsOnRelation
  /-- The path goes on from a field that leads nowhere. -/
  | notRelation
  /-- A fault in words. -/
  | other (message : String)
  deriving DecidableEq, Repr

/-- What is wrong with a model. -/
inductive ModelFault where
  /-- It has no name. -/
  | unnamed
  /-- It has no fields. -/
  | noFields
  /-- A fault in words. -/
  | other (message : String)
  deriving DecidableEq, Repr

/-- What is wrong with a field. -/
inductive FieldFault where
  /-- It has no name. -/
  | unnamed
  /-- Its name holds the mark between the parts of a path. -/
  | holdsSeparator
  /-- Its name is kept for separators between clauses. -/
  | reservedName
  /-- It leads to a model that is not registered. -/
  | unknownTarget (model : String)
  /-- It is a relation with fixed values. -/
  | relationWithChoices
  /-- A fault in words. -/
  | other (message : String)
  deriving DecidableEq, Repr

/-- An error of the registry or the settings. -/
inductive RegistryError where
  /-- A file could not be read. -/
  | unreadable (file : String)
  /-- There is no model of this name. -/
  | unknownModel (model : String)
  /-- A segment of a path names no field. -/
  | unknownField (model path segment : String)
  /-- A segment of a path names a field that cannot stand there. -/
  | invalidPath (model field path : String) (fault : PathFault)
  /-- A text did not convert. -/
  | conversion (error : ConversionError)
  /-- A model is not well formed. -/
  | invalidModel (name : String) (fault : ModelFault)
  /-- A field is not well formed. -/
  | invalidField (model field : String) (fault : FieldFault)
  /-- Something is declared twice. -/
  | duplicate (what name : String)
  /-- The settings do not make sense. -/
  | settings (message : String)
  /-- A text is no Toml of the form wanted. -/
  | toml
  /-- A text is no Json of the form wanted. -/
  | json
  /-- Several errors found in one registry. -/
  | several (errors : List RegistryError)
  deriving Repr

namespace PathFault

/-- The words of a fault. -/
def message : PathFault → String
  | endsOnRelation => "a relation cannot be compared directly"
  | notRelation => "not a relation"
  | other message => message

end PathFault

namespace ModelFault

/-- The words of a fault. -/
def message : ModelFault → String
  | unnamed => "model name cannot be empty"
  | noFields => "model must declare at least one field"
  | other message => message

end ModelFault

namespace FieldFault

/-- The words of a fault. -/
def message : FieldFault → String
  | unnamed => "field name cannot be empty"
  | holdsSeparator => "field name cannot contain `__`"
  | reservedName => "`_OR` is reserved for the OR separator"
  | unknownTarget model => "relation to unknown model `" ++ model ++ "`"
  | relationWithChoices => "relations cannot declare choices"
  | other message => message

end FieldFault

namespace RegistryError

/-- The words of an error. -/
def message : RegistryError → String
  | unreadable file => "failed to read file: " ++ file
  | unknownModel model => "unknown model `" ++ model ++ "`"
  | unknownField model path segment =>
    "unknown field `" ++ segment ++ "` in path `" ++ path ++ "` on model `" ++ model ++ "`"
  | invalidPath model field path fault =>
    "field `" ++ model ++ "." ++ field ++ "` cannot be used in path `" ++ path ++ "`: " ++
      fault.message
  | conversion error => error.message
  | invalidModel name fault => "invalid model `" ++ name ++ "`: " ++ fault.message
  | invalidField model field fault =>
    "invalid field `" ++ model ++ "." ++ field ++ "`: " ++ fault.message
  | duplicate what name => "duplicate " ++ what ++ " `" ++ name ++ "`"
  | settings message => "configuration error: " ++ message
  | toml => "failed to parse TOML"
  | json => "failed to parse JSON"
  | several errors =>
    "registry validation failed with " ++ Number.natText errors.length ++ " error(s)"

/-- The code of an error. -/
def code : RegistryError → String
  | unreadable _ => "sieve::schema::io_error"
  | unknownModel _ => "sieve::schema::unknown_model"
  | unknownField .. => "sieve::schema::unknown_field"
  | invalidPath .. => "sieve::schema::invalid_path"
  | conversion _ => "sieve::schema::conversion"
  | invalidModel .. => "sieve::schema::invalid_model"
  | invalidField .. => "sieve::schema::invalid_field"
  | duplicate .. => "sieve::schema::duplicate"
  | settings _ => "sieve::schema::config_error"
  | toml => "sieve::schema::toml_error"
  | json => "sieve::schema::json_error"
  | several _ => "sieve::schema::validation_failed"

/-- What may help the person who sees an error. -/
def help? : RegistryError → Option String
  | unknownField .. => some "field paths cross relations with `__`, e.g. `parts__name`"
  | _ => none

/-- The error says that a path leads nowhere. -/
def isPathError : RegistryError → Bool
  | unknownModel _ => true
  | unknownField .. => true
  | invalidPath .. => true
  | _ => false

end RegistryError

end Filterbook

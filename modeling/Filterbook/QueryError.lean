import Filterbook.Clause.Error

/-!
# Errors of requests

Why a request to the service failed: a cause, which gives a code and words, and the circumstances
shown with it. Records that a user may not see are reported as not found.
-/

namespace Filterbook

open Filterbook.Number

/-- The code of an error. -/
inductive ErrorCode where
  /-- A record is not there, or not for this user. -/
  | recordNotFound
  /-- Clauses did not pass validation. -/
  | invalidFilter
  /-- A model is not registered. -/
  | unknownContentType
  /-- A path leads nowhere. -/
  | unknownField
  /-- The user may not do this. -/
  | permissionDenied
  /-- The store of records failed. -/
  | storeError
  /-- The settings do not make sense. -/
  | invalidConfiguration
  /-- Something went wrong inside. -/
  | internal
  deriving DecidableEq, Repr

namespace ErrorCode

/-- The number of a code. -/
def number : ErrorCode → Nat
  | recordNotFound => 1001
  | invalidFilter => 1002
  | unknownContentType => 1003
  | unknownField => 1004
  | permissionDenied => 2001
  | storeError => 3001
  | invalidConfiguration => 7001
  | internal => 9001

/-- The code as it is shown. -/
def text (c : ErrorCode) : String := "S" ++ natText c.number

/-- The words for a code. -/
def description : ErrorCode → String
  | recordNotFound => "Record not found"
  | invalidFilter => "Invalid filter"
  | unknownContentType => "Unknown content type"
  | unknownField => "Unknown field"
  | permissionDenied => "Permission denied"
  | storeError => "Record store error"
  | invalidConfiguration => "Invalid configuration"
  | internal => "Internal error"

end ErrorCode

/-- Why a store of records failed. -/
inductive StoreFault where
  /-- The pattern for a path is not well formed. -/
  | badPattern (path : String)
  /-- A fault in words. -/
  | other (message : String)
  deriving DecidableEq, Repr

/-- The words of a fault. -/
def StoreFault.message : StoreFault → String
  | badPattern path => path
  | other message => message

/-- Why a request failed. -/
inductive QueryCause where
  /-- There is no such record for this user. -/
  | notFound (model : String)
  /-- There is no such model. -/
  | unknownContentType (model : String)
  /-- A path leads nowhere. -/
  | unresolved (error : RegistryError)
  /-- The user may not do this. -/
  | permissionDenied (action model : String)
  /-- Clauses did not pass validation. -/
  | invalidFilter (errors : List FilterError)
  /-- The store of records failed. -/
  | store (fault : StoreFault)
  /-- The settings do not make sense. -/
  | settings (error : RegistryError)
  /-- Something went wrong inside. -/
  | internal (message : String)
  /-- A cause in words, with its code. -/
  | other (code : ErrorCode) (message : String)

namespace QueryCause

/-- The code of a cause. -/
def code : QueryCause → ErrorCode
  | notFound _ => .recordNotFound
  | unknownContentType _ => .unknownContentType
  | unresolved _ => .unknownField
  | permissionDenied .. => .permissionDenied
  | invalidFilter _ => .invalidFilter
  | store _ => .storeError
  | settings _ => .invalidConfiguration
  | internal _ => .internal
  | other code _ => code

/-- The words of a cause. -/
def message : QueryCause → String
  | notFound model => "No " ++ model ++ " record found matching the query"
  | unknownContentType model => "Content type '" ++ model ++ "' is not registered"
  | unresolved error => error.message
  | permissionDenied action model => "Not allowed to " ++ action ++ " " ++ model
  | invalidFilter errors =>
    "Filter failed validation with " ++ natText errors.length ++ " error(s)"
  | store fault => "Record store error: " ++ fault.message
  | settings error => error.message
  | internal message => "Internal error: " ++ message
  | other _ message => message

end QueryCause

/-- A failed request. -/
structure QueryError where
  /-- Why it failed. -/
  cause : QueryCause
  /-- What was being done. -/
  operation? : Option String := none
  /-- The model concerned. -/
  model? : Option String := none
  /-- The field concerned. -/
  field? : Option String := none
  /-- What the user may try. -/
  suggestions : List String := []
  /-- What may help. -/
  help? : Option String := none
  /-- The error of the registry behind it. -/
  source? : Option RegistryError := none

namespace QueryError

/-- There is no such record for this user. -/
def notFound (model : String) : QueryError where
  cause := .notFound model
  model? := some model
  suggestions := ["Verify the " ++ model ++ " exists and is visible to you"]

/-- There is no such model. -/
def unknownContentType (model : String) : QueryError where
  cause := .unknownContentType model
  model? := some model
  suggestions := ["Register the model in the content-type registry"]

/-- The user may not do this. -/
def permissionDenied (action model : String) : QueryError where
  cause := .permissionDenied action model
  model? := some model

/-- Clauses did not pass validation. -/
def invalidFilter (errors : List FilterError) : QueryError where
  cause := .invalidFilter errors
  help? := some "Fix the listed clauses and submit the filter again"

/-- The store of records failed. -/
def store (fault : StoreFault) : QueryError where
  cause := .store fault

/-- Something went wrong inside. -/
def internal (message : String) : QueryError where
  cause := .internal message
  help? := some "This is likely a bug in Sieve - please report it"

/-- The failure that an error of the registry means for a request. -/
def ofRegistry (e : RegistryError) : QueryError :=
  let plain : QueryError := match e with
    | .unknownModel model => unknownContentType model
    | .unknownField model path _ => { cause := .unresolved e, model? := some model, field? := some path }
    | .invalidPath model _ path _ => { cause := .unresolved e, model? := some model, field? := some path }
    | .settings _ => { cause := .settings e }
    | .toml => { cause := .settings e }
    | e => internal e.message
  { plain with source? := some e }

/-- The code of an error. -/
def code (e : QueryError) : ErrorCode := e.cause.code

/-- The words of an error. -/
def message (e : QueryError) : String := e.cause.message

/-- The errors of clauses, if these are the cause. -/
def validation? (e : QueryError) : Option (List FilterError) :=
  match e.cause with
  | .invalidFilter errors => some errors
  | _ => none

/-- The code and the words. -/
def display (e : QueryError) : String := "[" ++ e.code.text ++ "] " ++ e.message

/-- A line for a circumstance that is known. -/
def circumstance (name : String) : Option String → String
  | none => ""
  | some text => "  → " ++ name ++ ": " ++ text ++ "\n"

/-- Suggestions as numbered lines, counted on from a number. -/
def numbered (start : Nat) : List String → String
  | [] => ""
  | s :: ss => "  " ++ natText start ++ ". " ++ s ++ "\n" ++ numbered (start + 1) ss

/-- The error with all its circumstances. -/
def full (e : QueryError) : String :=
  let problems := match e.validation? with
    | none => ""
    | some errors =>
      "\nProblems:\n" ++ String.join (errors.map fun p => "  - " ++ p.message ++ "\n")
  let suggestions :=
    if e.suggestions.isEmpty then "" else "\nSuggestions:\n" ++ numbered 1 e.suggestions
  let help := match e.help? with
    | none => ""
    | some text => "\nHelp: " ++ text ++ "\n"
  "Error [" ++ e.code.text ++ "]: " ++ e.message ++ "\n" ++ circumstance "While" e.operation? ++
    circumstance "Model" e.model? ++ circumstance "Field" e.field? ++ problems ++ suggestions ++ help

end QueryError

end Filterbook

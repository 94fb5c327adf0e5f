import Filterbook.Registry.Error

/-!
# Errors in clauses

What can be wrong with one clause or with the order of a list of clauses. The errors of a submission
are reported together.
-/

namespace Filterbook

/-- Why a clause's field cannot be used. -/
inductive FieldProblem where
  /-- The path leads nowhere. -/
  | unresolved (error : RegistryError)
  /-- The model does not expose the path. -/
  | notExposed (model : String)
  /-- A problem in words. -/
  | other (reason : String)

/-- What is wrong with one clause. -/
inductive ClauseFault where
  /-- The field cannot be used. -/
  | unknownField (field : String) (problem : FieldProblem)
  /-- There is no operator. -/
  | operatorRequired
  /-- The operator is unknown, or not for this field. -/
  | operatorNotAllowed (operator field : String)
  /-- There is no operand. -/
  | valueRequired
  /-- The operand is no value of the field's kind. -/
  | invalidValue (error : ConversionError)

/-- What is wrong with the order of the clauses. -/
inductive SequenceError where
  /-- There is no clause. -/
  | atLeastOneRequired
  /-- A separator comes first. -/
  | leadingSeparator
  /-- A separator comes last. -/
  | trailingSeparator
  /-- A separator follows a separator. -/
  | consecutiveSeparators
  deriving DecidableEq, Repr

/-- An error of a submission. -/
inductive FilterError where
  /-- Something is wrong with the clause at an index. -/
  | clause (index : Nat) (fault : ClauseFault)
  /-- Something is wrong with the order. -/
  | sequence (error : SequenceError)

/-- The words of a problem. -/
def FieldProblem.message : FieldProblem → String
  | unresolved error => error.message
  | notExposed model => "not available for filtering on `" ++ model ++ "`"
  | other reason => reason

namespace ClauseFault

/-- The words of a fault. -/
def message : ClauseFault → String
  | unknownField field problem => "Unknown field '" ++ field ++ "': " ++ problem.message
  | operatorRequired => "This field is required."
  | operatorNotAllowed operator field =>
    "Operator '" ++ operator ++ "' is not allowed for field '" ++ field ++ "'."
  | valueRequired => "This field is required."
  | invalidValue error =>
    "Value is not valid for field (" ++ error.kind.name ++ "): " ++ error.message

/-- The part of a clause that a fault is about. -/
def input : ClauseFault → String
  | unknownField .. => "field"
  | operatorRequired => "operator"
  | operatorNotAllowed .. => "operator"
  | valueRequired => "value"
  | invalidValue _ => "value"

end ClauseFault

/-- The words of an error in the order. -/
def SequenceError.message : SequenceError → String
  | atLeastOneRequired => "At least one field filter is required."
  | leadingSeparator => "First field filter cannot be an OR separator."
  | trailingSeparator => "Last field filter cannot be an OR separator."
  | consecutiveSeparators => "Cannot have consecutive OR separators."

namespace FilterError

/-- The index of the clause that an error is about. -/
def index? : FilterError → Option Nat
  | clause index _ => some index
  | sequence _ => none

/-- The error in the order, if it is one. -/
def sequence? : FilterError → Option SequenceError
  | clause .. => none
  | sequence error => some error

/-- The words of an error. -/
def message : FilterError → String
  | clause index fault =>
    "clause " ++ Number.natText index ++ " (" ++ fault.input ++ "): " ++ fault.message
  | sequence error => error.message

/-- The words of all errors, with semicolons between them. -/
def messages (errors : List FilterError) : String := "; ".intercalate (errors.map message)

end FilterError

end Filterbook

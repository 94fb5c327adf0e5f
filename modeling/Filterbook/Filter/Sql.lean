import Filterbook.Filter.Basic
import Filterbook.Registry.Resolved

/-!
# Filters as SQL

A filter is written as the condition of a query with numbered placeholders, beside the list of the
values to bind to them. The text never holds an operand. Placeholders count on from an offset, from
left to right, so that a part is written like a filter of its own whose offset counts what came
before.
-/

namespace Filterbook

open Filterbook.Number

namespace Comparator

/-- The operator between column and placeholder. -/
def sqlOperator : Comparator → String
  | eq => "="
  | ieq => "="
  | lt => "<"
  | lte => "<="
  | gt => ">"
  | gte => ">="
  | contains => "LIKE"
  | icontains => "ILIKE"
  | regex => "~"
  | iregex => "~*"

/-- Both sides are lowered before they are compared. -/
def lowers : Comparator → Bool
  | ieq => true
  | _ => false

/-- The value to bind for an operand: a text to be contained is made a pattern. -/
def bound (c : Comparator) (operand : Value) : Value :=
  match c, operand with
  | contains, .text s => .text ("%" ++ s ++ "%")
  | icontains, .text s => .text ("%" ++ s ++ "%")
  | _, v => v

/-- Equality with the null value, which asks whether a value is missing and binds nothing. -/
def asksMissing (c : Comparator) (operand : Value) : Bool := c = eq && operand.isNull

theorem eq_of_asksMissing {c : Comparator} {operand : Value} (h : c.asksMissing operand = true) :
    c = eq ∧ operand = .null := by
  rw [asksMissing, Bool.and_eq_true, decide_eq_true_iff] at h
  cases operand with
  | null => exact ⟨h.1, rfl⟩
  | _ => cases h.2

end Comparator

namespace Filter

/-- A path as a column: its segments with points between them. -/
def columnChars (path : String) : List Char :=
  Text.replaceChars pathSeparator.toList ['.'] path.toList

/-- The values that a comparison binds. -/
def leafParams (c : Comparator) (operand : Value) : List Value :=
  if c.asksMissing operand then [] else [c.bound operand]

mutual

/-- The values to bind, in the order of their placeholders. -/
def params : Filter → List Value
  | always => []
  | leaf c _ operand => leafParams c operand
  | all fs => paramsOf fs
  | any fs => paramsOf fs
  | not f => params f

/-- The values that several filters bind. -/
def paramsOf : List Filter → List Value
  | [] => []
  | f :: fs => params f ++ paramsOf fs

end

/-- A text with an opening and a closing parenthesis, after a word. -/
def inParens (word : String) (cs : List Char) : List Char := word.toList ++ '(' :: cs ++ [')']

/-- A comparison; its placeholder is the one after the offset. -/
def leafSql (offset : Nat) (c : Comparator) (path : String) (operand : Value) : List Char :=
  let column := columnChars path
  let place := '$' :: natDigits (offset + 1)
  if c.asksMissing operand then column ++ " IS NULL".toList
  else if c.lowers then inParens "LOWER" column ++ " = ".toList ++ inParens "LOWER" place
  else column ++ ' ' :: c.sqlOperator.toList ++ ' ' :: place

mutual

/-- The condition, with placeholders numbered on from an offset. -/
def sqlChars (offset : Nat) : Filter → List Char
  | always => "TRUE".toList
  | leaf c path operand => leafSql offset c path operand
  | all [] => "TRUE".toList
  | all (f :: fs) => inParens "" (sqlChars offset f ++ sqlRest (offset + (params f).length) " AND " fs)
  | any [] => "FALSE".toList
  | any (f :: fs) => inParens "" (sqlChars offset f ++ sqlRest (offset + (params f).length) " OR " fs)
  | not f => inParens "NOT " (sqlChars offset f)

/-- The conditions that follow a first one, each after a word. -/
def sqlRest (offset : Nat) (word : String) : List Filter → List Char
  | [] => []
  | f :: fs => word.toList ++ sqlChars offset f ++ sqlRest (offset + (params f).length) word fs

end

/-- The text of the condition, with placeholders numbered on from an offset. -/
def sql (offset : Nat) (f : Filter) : String := String.ofList (f.sqlChars offset)

end Filter

end Filterbook

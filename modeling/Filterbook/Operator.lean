import Filterbook.Kind
import Filterbook.Filter.Basic

/-!
# Operators

The operators that an author may choose for a comparison, with their tokens and the words shown for
them. Four of them take no value.
-/

namespace Filterbook

/-- An operator of a clause. -/
inductive Operator where
  /-- The value equals the operand. -/
  | exact
  /-- The value equals the operand, whatever the case of letters. -/
  | iexact
  /-- The value contains the operand. -/
  | contains
  /-- The value contains the operand, whatever the case of letters. -/
  | icontains
  /-- The value matches a pattern. -/
  | regex
  /-- The value matches a pattern, whatever the case of letters. -/
  | iregex
  /-- The value is less than the operand. -/
  | lt
  /-- The value is greater than the operand. -/
  | gt
  /-- The value is at most the operand. -/
  | lte
  /-- The value is at least the operand. -/
  | gte
  /-- The value is missing. -/
  | isNull
  /-- The value is true. -/
  | isTrue
  /-- The value is false. -/
  | isFalse
  /-- The value is the empty text. -/
  | isEmpty
  deriving DecidableEq, Repr

namespace Operator

/-- Every operator, in the order of menus. -/
def all : List Operator :=
  [isTrue, isFalse, isNull, exact, iexact, contains, icontains, regex, iregex, isEmpty, lt, gt, lte,
    gte]

/-- The token of an operator. -/
def token : Operator → String
  | exact => "exact"
  | iexact => "iexact"
  | contains => "contains"
  | icontains => "icontains"
  | regex => "regex"
  | iregex => "iregex"
  | lt => "lt"
  | gt => "gt"
  | lte => "lte"
  | gte => "gte"
  | isNull => "isnull"
  | isTrue => "istrue"
  | isFalse => "isfalse"
  | isEmpty => "isempty"

/-- The operator whose token this is. -/
def ofToken? (s : String) : Option Operator := all.find? (·.token == s)

/-- The operator that an author wrote: by its token, or exactness by one of two other words. -/
def parse? (s : String) : Option Operator :=
  if s = "equals" || s = "eq" then some exact else ofToken? s

/-- The words for a token that names no operator. -/
def unknownMessage (token : String) : String := "unknown operator '" ++ token ++ "'"

/-- The operator looks at the stored value alone. -/
def takesNoValue : Operator → Bool
  | isNull => true
  | isTrue => true
  | isFalse => true
  | isEmpty => true
  | _ => false

/-- The words shown for an operator on a field of a category. -/
def label : Operator → Category → String
  | exact, .text => "Equals (case-sensitive)"
  | exact, .numeric => "Equals (numeric)"
  | exact, .date => "Equals (date/time)"
  | exact, .identifier => "Equals (UUID)"
  | exact, _ => "Equals (exact)"
  | iexact, _ => "Equals (ignore case)"
  | contains, _ => "Contains (case-sensitive)"
  | icontains, _ => "Contains (ignore case)"
  | regex, _ => "Regex Match (case-sensitive)"
  | iregex, _ => "Regex Match (ignore case)"
  | lt, _ => "Less Than"
  | gt, _ => "Greater Than"
  | lte, _ => "Less Than or Equal To"
  | gte, _ => "Greater Than or Equal To"
  | isNull, _ => "Is NULL"
  | isTrue, _ => "Is TRUE"
  | isFalse, _ => "Is FALSE"
  | isEmpty, _ => "Is Empty"

/-- The comparison that an operator stands for. The operators without a value are equality with a
value of their own. -/
def comparison (o : Operator) (path : String) (operand : Value) : Filter :=
  match o with
  | isNull => .leaf .eq path .null
  | isEmpty => .leaf .eq path (.text "")
  | isTrue => .leaf .eq path (.bool true)
  | isFalse => .leaf .eq path (.bool false)
  | exact => .leaf .eq path operand
  | iexact => .leaf .ieq path operand
  | contains => .leaf .contains path operand
  | icontains => .leaf .icontains path operand
  | regex => .leaf .regex path operand
  | iregex => .leaf .iregex path operand
  | lt => .leaf .lt path operand
  | gt => .leaf .gt path operand
  | lte => .leaf .lte path operand
  | gte => .leaf .gte path operand

end Operator

end Filterbook

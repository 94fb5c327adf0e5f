import Filterbook.Filter.Basic
import Filterbook.Registry.Resolved
import Filterbook.Value.Conversion
import Filterbook.Pattern.Reader
import Filterbook.Pattern.Match

/-!
# Filters on rows

A filter holds of a Json row or not. A path walks through objects; lists on the way are relations to
several records, and a list at the end holds several values. A comparison holds when one of the values
reached compares as wanted; values that cannot be compared with the operand never do.
-/

namespace Filterbook

open Filterbook.Number Filterbook.Text

namespace Json

/-- The values of a member of a record, or of each record of a list. -/
def step (name : String) : Json → List Json
  | arr items => items.filterMap (get? name)
  | v => (get? name v).toList

/-- The values of a list, or the value itself. -/
def spread : Json → List Json
  | arr items => items
  | v => [v]

/-- The values reached by the segments of a path. -/
def follow (segments : List String) (values : List Json) : List Json :=
  segments.foldl (fun values name => values.flatMap (step name)) values

/-- The values that a path reaches in a row. -/
def reach (path : String) (row : Json) : List Json :=
  (follow (split pathSeparator path) [row]).flatMap spread

/-- A value is `null`. -/
def isNull : Json → Bool
  | null => true
  | _ => false

/-- A text, a number or a truth value as text. -/
def plainText? : Json → Option String
  | str s => some s
  | num n => some (String.ofList (numberChars n))
  | bool b => some (if b then "true" else "false")
  | _ => none

end Json

namespace JsonNumber

/-- The floating-point number nearest to a number. -/
def toFloat : JsonNumber → Binary64
  | int n => .ofInt n
  | float x => x

end JsonNumber

namespace Value

/-- A number beside an integer: two integers of 64 bits as they are, others as floating point. -/
def compareInt? (n : JsonNumber) (i : Int) : Option Ordering :=
  match n with
  | .int a => if inInt64 a then some (compare a i) else (Binary64.ofInt a).compare? (.ofInt i)
  | .float x => x.compare? (.ofInt i)

/-- The first ten bytes of a text, when they end between two characters. -/
def firstTenBytes? : (room : Nat) → List Char → Option (List Char)
  | 0, _ => some []
  | _, [] => none
  | room + 1, c :: cs =>
    let size := encodedSize c
    if room + 1 < size then none
    else (firstTenBytes? (room + 1 - size) cs).map (c :: ·)
termination_by _ cs => cs.length

/-- The day that the first ten bytes of a text write. -/
def leadingDate? (s : String) : Option Calendar.Date := do
  (readDate (String.ofList (← firstTenBytes? 10 s.toList))).toOption

/-- The order of a stored value and an operand, if the two can be compared. -/
def order? [DecimalReader] (stored : Json) (operand : Value) : Option Ordering :=
  match operand with
  | null => none
  | list _ => none
  | bool b =>
    match stored with
    | .bool a => some (compare a b)
    | _ => none
  | int i =>
    match stored with
    | .num n => compareInt? n i
    | .str s => (readInt64? s).map (compare · i)
    | _ => none
  | float x =>
    match stored with
    | .num n => n.toFloat.compare? x
    | .str s => (readFloat? (trim s)).bind (·.compare? x)
    | _ => none
  | decimal d =>
    match stored with
    | .num n => (Decimal.readTyped? (Json.numberChars n)).map (·.order d)
    | .str s => (DecimalReader.read? (trimChars s.toList)).map (·.order d)
    | _ => none
  | text t => stored.plainText?.map (compareText · t)
  | date d =>
    match stored with
    | .str s => (leadingDate? s).map (·.order d)
    | _ => none
  | dateTime t =>
    match stored with
    | .str s => (readDateTime s).toOption.map (·.order t)
    | _ => none
  | time t =>
    match stored with
    | .str s => (readTime? s).map (·.order t)
    | _ => none
  | uuid u =>
    match stored with
    | .str s => (Uuid.read? s).map (·.order u)
    | _ => none
  | json v =>
    match stored with
    | .null => none
    | stored => if stored.eqv v then some .eq else none

/-- The text of an operand: a text as it is, any other value as shown. -/
def needle : Value → String
  | text s => s
  | v => v.display

end Value

namespace Comparator

/-- The comparator takes its operand for a pattern. -/
def usesPattern : Comparator → Bool
  | regex => true
  | iregex => true
  | _ => false

/-- The pattern of an operand, if it is well formed. -/
def pattern? (c : Comparator) (operand : Value) : Option Pattern.Expr :=
  Pattern.read? (c = iregex) operand.needle

/-- A stored value compares with an operand as wanted. Comparators with patterns are left to
`Filter.leafHolds`, which reads a pattern once. -/
def holds [DecimalReader] (c : Comparator) (operand : Value) (stored : Json) : Bool :=
  let order? := Value.order? stored operand
  match c with
  | eq => order? == some .eq
  | ieq =>
    match stored.plainText?, operand with
    | some s, .text t => lower s == lower t
    | _, _ => order? == some .eq
  | lt => order? == some .lt
  | lte => order? == some .lt || order? == some .eq
  | gt => order? == some .gt
  | gte => order? == some .gt || order? == some .eq
  | contains => stored.plainText?.any (Text.contains operand.needle ·)
  | icontains => stored.plainText?.any fun s => Text.contains (lower operand.needle) (lower s)
  | regex => false
  | iregex => false

end Comparator

namespace Filter

/-- A comparison holds of a row. A pattern that is not well formed never does. -/
def leafHolds [DecimalReader] (c : Comparator) (path : String) (operand : Value) (row : Json) : Bool :=
  let values := row.reach path
  if c = .eq && operand.isNull then values.isEmpty || values.any Json.isNull
  else if c.usesPattern then
    match c.pattern? operand with
    | none => false
    | some e => values.any fun v => v.plainText?.any fun s => e.occursIn s.toList
  else values.any (c.holds operand)

mutual

/-- A filter holds of a row. -/
def holds [DecimalReader] (row : Json) : Filter → Bool
  | always => true
  | leaf c path operand => leafHolds c path operand row
  | all fs => holdsAll row fs
  | any fs => holdsAny row fs
  | not f => !holds row f

/-- All of the filters hold of a row. -/
def holdsAll [DecimalReader] (row : Json) : List Filter → Bool
  | [] => true
  | f :: fs => holds row f && holdsAll row fs

/-- One of the filters holds of a row. -/
def holdsAny [DecimalReader] (row : Json) : List Filter → Bool
  | [] => false
  | f :: fs => holds row f || holdsAny row fs

end

/-- The path of the first comparison whose pattern is not well formed. -/
def badPattern? (f : Filter) : Option String :=
  f.leaves.findSome? fun (c, path, operand) =>
    if c.usesPattern && (c.pattern? operand).isNone then some path else none

end Filter

end Filterbook

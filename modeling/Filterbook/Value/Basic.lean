import Filterbook.Number.Decimal
import Filterbook.Number.FloatText
import Filterbook.Calendar.Time
import Filterbook.Uuid
import Filterbook.Json.Printer
import Filterbook.Text.Quoted

/-!
# Values

The typed operands of comparisons, with their equality and two written forms: the plain Json of a value,
which drops its type, and the text shown to a person.
-/

namespace Filterbook

open Filterbook.Number Filterbook.Calendar

/-- A typed value. -/
inductive Value where
  /-- No value. -/
  | null
  /-- A truth value. -/
  | bool (b : Bool)
  /-- An integer of 64 bits. -/
  | int (n : Int)
  /-- A floating-point number. -/
  | float (x : Binary64)
  /-- An exact decimal number. -/
  | decimal (d : Decimal)
  /-- A text. -/
  | text (s : String)
  /-- A day. -/
  | date (d : Date)
  /-- A time on a day, in UTC. -/
  | dateTime (t : DateTime)
  /-- A time of day. -/
  | time (t : TimeOfDay)
  /-- An identifier. -/
  | uuid (u : Uuid)
  /-- A Json value. -/
  | json (v : Json)
  /-- Several values. -/
  | list (values : List Value)

namespace Value

/-- The value is the missing one. -/
def isNull : Value → Bool
  | null => true
  | _ => false

/-- The text of a text value. -/
def text? : Value → Option String
  | text s => some s
  | _ => none

/-- The name of the type of a value. -/
def typeName : Value → String
  | null => "null"
  | bool _ => "bool"
  | int _ => "int"
  | float _ => "float"
  | decimal _ => "decimal"
  | text _ => "string"
  | date _ => "date"
  | dateTime _ => "datetime"
  | time _ => "time"
  | uuid _ => "uuid"
  | json _ => "json"
  | list _ => "list"

mutual

/-- Two values of one type are equal: numbers when they are worth the same, however many places they have
and whatever the sign of a zero, and all others when they are the same. -/
def eqv : Value → Value → Bool
  | null, null => true
  | bool a, bool b => a == b
  | int m, int n => m == n
  | float x, float y => x.eqv y
  | decimal c, decimal d => c.order d == .eq
  | text s, text t => s == t
  | date a, date b => a == b
  | dateTime a, dateTime b => a == b
  | time a, time b => a == b
  | uuid a, uuid b => a == b
  | json v, json w => v.eqv w
  | list vs, list ws => eqvItems vs ws
  | _, _ => false

/-- Equality of lists item by item. -/
def eqvItems : List Value → List Value → Bool
  | [], [] => true
  | v :: vs, w :: ws => eqv v w && eqvItems vs ws
  | _, _ => false

end

mutual

/-- The plain Json of a value. -/
def toJson : Value → Json
  | null => .null
  | bool b => .bool b
  | int n => .int n
  | float x => if x.isFinite then .num (.float x) else .null
  | decimal d => .str d.text
  | text s => .str s
  | date d => .str d.text
  | dateTime t => .str t.isoText
  | time t => .str t.text
  | uuid u => .str u.text
  | json v => v
  | list values => .arr (toJsons values)

/-- The plain Json of several values. -/
def toJsons : List Value → List Json
  | [] => []
  | v :: vs => toJson v :: toJsons vs

end

mutual

/-- The text of a value for a person. Texts are quoted, and the values of a list stand in brackets. -/
def display : Value → String
  | null => "NULL"
  | bool b => if b then "true" else "false"
  | int n => intText n
  | float x => plainFloat.text x
  | decimal d => d.text
  | text s => Text.quoted s
  | date d => d.text
  | dateTime t => t.text
  | time t => t.text
  | uuid u => u.text
  | json v => v.text
  | list values => "[" ++ displayItems values ++ "]"

/-- The texts of values with commas between them. -/
def displayItems : List Value → String
  | [] => ""
  | [v] => display v
  | v :: vs => display v ++ ", " ++ displayItems vs

end

end Value

end Filterbook

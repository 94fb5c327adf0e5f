import Filterbook.Json.Basic
import Filterbook.Number.Digits

/-!
# Reading records from Json

A record is written as an object, or as the list of its members in their declared order. Each member
has a reader; a missing member is an error, nothing, or a default, as the record says.
-/

namespace Filterbook.Json

open Filterbook.Number

/-- The members of a record. -/
structure Shape where
  /-- The names of the members, in declared order. -/
  names : List String
  /-- How many members a list must hold at least. -/
  least : Nat
  /-- Whether members of other names are refused. -/
  closed : Bool := false

/-- No name occurs twice. -/
def allDistinct (names : List String) : Bool :=
  match names with
  | [] => true
  | name :: rest => !rest.contains name && allDistinct rest

/-- The members of a record that are written. A known name comes once at most. -/
def Shape.members? (shape : Shape) : Json → Option (List (String × Json))
  | obj members =>
    let known := members.filter fun m => shape.names.contains m.1
    if !allDistinct (known.map (·.1)) then none
    else if shape.closed && known.length ≠ members.length then none
    else some known
  | arr items =>
    if shape.least ≤ items.length && items.length ≤ shape.names.length then
      some (shape.names.zip items)
    else none
  | _ => none

/-- A member that must be written. -/
def required {α : Type} (members : List (String × Json)) (name : String)
    (read? : Json → Option α) : Option α :=
  (members.lookup name).bind read?

/-- A member that may be missing or `null`. -/
def optional {α : Type} (members : List (String × Json)) (name : String)
    (read? : Json → Option α) : Option (Option α) :=
  match members.lookup name with
  | none => some none
  | some null => some none
  | some v => (read? v).map some

/-- A member with a default when it is missing. -/
def defaulted {α : Type} (members : List (String × Json)) (name : String)
    (read? : Json → Option α) (value : α) : Option α :=
  match members.lookup name with
  | none => some value
  | some v => read? v

/-- The text of a text value. -/
def text? : Json → Option String
  | str s => some s
  | _ => none

/-- The truth value of a truth value. -/
def bool? : Json → Option Bool
  | bool b => some b
  | _ => none

/-- The integer of an integer value that fits in 64 bits with a sign. -/
def int64? : Json → Option Int
  | num (.int n) => if inInt64 n then some n else none
  | _ => none

/-- The items of a list, each read. -/
def list? {α : Type} (read? : Json → Option α) : Json → Option (List α)
  | arr items => items.mapM read?
  | _ => none

/-- The name of a choice that carries nothing: a text, or an object whose only member is `null`. -/
def choice? : Json → Option String
  | str s => some s
  | obj [(name, null)] => some name
  | _ => none

end Filterbook.Json

import Filterbook.Number.Binary64
import Filterbook.Text.Order

/-!
# Json values

A value keeps its members as they were written. In canonical form the members of every object stand
in the order of their names, each name once with the value written last; two canonical values are
equal when they are equal part by part. An integer and a fraction are never equal.
-/

namespace Filterbook

open Filterbook.Number Filterbook.Text

/-- A number: an integer, or anything else as floating point. -/
inductive JsonNumber where
  /-- An integer, of 64 bits with or without a sign. -/
  | int (n : Int)
  /-- A number written with a point or an exponent, or too long for an integer. -/
  | float (x : Binary64)
  deriving DecidableEq, Repr

/-- Equality by value within each kind of number. -/
def JsonNumber.eqv : JsonNumber → JsonNumber → Bool
  | int m, int n => m == n
  | float x, float y => x.eqv y
  | _, _ => false

/-- A Json value. -/
inductive Json where
  /-- The value `null`. -/
  | null
  /-- A truth value. -/
  | bool (b : Bool)
  /-- A number. -/
  | num (n : JsonNumber)
  /-- A text. -/
  | str (s : String)
  /-- A list of values. -/
  | arr (items : List Json)
  /-- Named values, in the order written. -/
  | obj (members : List (String × Json))
  deriving Repr, Inhabited

namespace Json

/-- An integer value. -/
def int (n : Int) : Json := num (.int n)

/-- A member put in its place among sorted members; an equal name gives way. -/
def insertSorted (name : String) (value : Json) : List (String × Json) → List (String × Json)
  | [] => [(name, value)]
  | (other, old) :: rest =>
    match compareText name other with
    | .lt => (name, value) :: (other, old) :: rest
    | .eq => (name, value) :: rest
    | .gt => (other, old) :: insertSorted name value rest

/-- Members in the order of their names, the last value of each name. -/
def sortMembers (members : List (String × Json)) : List (String × Json) :=
  members.foldl (fun sorted m => insertSorted m.1 m.2 sorted) []

mutual

/-- The value with every object sorted by name. -/
def canonical : Json → Json
  | arr items => arr (canonicalItems items)
  | obj members => obj (sortMembers (canonicalMembers members))
  | v => v

/-- The items in canonical form. -/
def canonicalItems : List Json → List Json
  | [] => []
  | v :: vs => canonical v :: canonicalItems vs

/-- The members with values in canonical form, in the order given. -/
def canonicalMembers : List (String × Json) → List (String × Json)
  | [] => []
  | (name, v) :: ms => (name, canonical v) :: canonicalMembers ms

end

mutual

/-- Equality part by part. -/
def eqv : Json → Json → Bool
  | null, null => true
  | bool a, bool b => a == b
  | num m, num n => m.eqv n
  | str s, str t => s == t
  | arr xs, arr ys => eqvItems xs ys
  | obj ms, obj ns => eqvMembers ms ns
  | _, _ => false

/-- Equality of lists item by item. -/
def eqvItems : List Json → List Json → Bool
  | [], [] => true
  | x :: xs, y :: ys => eqv x y && eqvItems xs ys
  | _, _ => false

/-- Equality of members in order, by name and value. -/
def eqvMembers : List (String × Json) → List (String × Json) → Bool
  | [], [] => true
  | (k, x) :: ms, (l, y) :: ns => k == l && eqv x y && eqvMembers ms ns
  | _, _ => false

end

/-- The value of the first member with a name. -/
def get? (name : String) : Json → Option Json
  | obj members => members.lookup name
  | _ => none

end Json

end Filterbook

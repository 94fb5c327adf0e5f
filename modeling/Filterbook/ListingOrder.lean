import Filterbook.SavedFilter
import Filterbook.Text.Case
import Filterbook.Text.Order

/-!
# Listing order

The order in which saved filters are listed: attributes with directions, the first one that tells two
filters apart decides. A missing name counts as the greatest unless its place is given. Sorting keeps
the order of filters that no attribute tells apart.
-/

namespace Filterbook

open Filterbook.Text

/-- An attribute of saved filters to order by. -/
inductive OrderKey where
  /-- The name. -/
  | name
  /-- The time of creation. -/
  | created
  /-- The identity. -/
  | id
  deriving DecidableEq, Repr

/-- A direction of order. -/
inductive Direction where
  /-- The least first. -/
  | ascending
  /-- The greatest first. -/
  | descending
  deriving DecidableEq, Repr

/-- A place for missing values. -/
inductive NullPlacement where
  /-- Before all others. -/
  | first
  /-- After all others. -/
  | last
  deriving DecidableEq, Repr

/-- An attribute to order by. -/
structure OrderEntry where
  /-- The attribute. -/
  key : OrderKey
  /-- The direction. -/
  direction : Direction := .ascending
  /-- The place of missing values, if it is given. -/
  nulls? : Option NullPlacement := none
  /-- Whether the case of letters does not count. -/
  ignoreCase : Bool := false
  deriving DecidableEq, Repr

/-- Attributes to order by, the most significant first. -/
structure ListingOrder where
  /-- The attributes. -/
  entries : List OrderEntry
  deriving DecidableEq, Repr

namespace OrderKey

/-- The column of an attribute. -/
def column : OrderKey → String
  | name => "name"
  | created => "created"
  | id => "id"

/-- The attribute with a column. -/
def ofColumn? (s : String) : Option OrderKey := [name, created, id].find? (·.column == s)

end OrderKey

namespace Direction

/-- The word for a direction. -/
def word : Direction → String
  | ascending => "asc"
  | descending => "desc"

/-- The direction with a word. -/
def ofWord? (s : String) : Option Direction := [ascending, descending].find? (·.word == s)

/-- The key word for a direction. -/
def sql : Direction → String
  | ascending => "ASC"
  | descending => "DESC"

end Direction

namespace NullPlacement

/-- The word for a place. -/
def word : NullPlacement → String
  | first => "first"
  | last => "last"

/-- The place with a word. -/
def ofWord? (s : String) : Option NullPlacement := [first, last].find? (·.word == s)

/-- The key words for a place. -/
def sql : NullPlacement → String
  | first => "NULLS FIRST"
  | last => "NULLS LAST"

end NullPlacement

namespace OrderEntry

/-- The item of an `ORDER BY` list. -/
def sql (e : OrderEntry) : String :=
  (if e.ignoreCase then "lower(" ++ e.key.column ++ ")" else e.key.column) ++ " " ++ e.direction.sql ++
    match e.nulls? with
    | some place => " " ++ place.sql
    | none => ""

/-- An order turned round when the direction is descending. -/
def directed (e : OrderEntry) (o : Ordering) : Ordering :=
  match e.direction with
  | .ascending => o
  | .descending => o.swap

/-- The order of a missing value and one that is there. -/
def missingOrder (e : OrderEntry) : Ordering :=
  match e.nulls? with
  | some .first => .lt
  | some .last => .gt
  | none => e.directed .gt

/-- The name of a filter as it is compared. -/
def comparedName? (e : OrderEntry) (f : SavedFilter) : Option String :=
  if e.ignoreCase then f.name?.map lower else f.name?

/-- The order of two filters by one attribute. -/
def order (e : OrderEntry) (a b : SavedFilter) : Ordering :=
  match e.key with
  | .name =>
    match e.comparedName? a, e.comparedName? b with
    | some s, some t => e.directed (compareText s t)
    | none, none => .eq
    | none, some _ => e.missingOrder
    | some _, none => e.missingOrder.swap
  | .created => e.directed (a.created.order b.created)
  | .id => e.directed (a.id.order b.id)

/-- The Json form of an entry. -/
def toJson (e : OrderEntry) : Json :=
  .obj ([("field", .str e.key.column), ("direction", .str e.direction.word)] ++
    (e.nulls?.toList.map fun place => ("nulls", .str place.word)) ++
    [("ignore_case", .bool e.ignoreCase)])

/-- The entry that a value writes, given how choices are written. -/
def ofJson? (choice? : Json → Option String) (j : Json) : Option OrderEntry := do
  let ms ← Json.Shape.members? ⟨["field", "direction", "nulls", "ignore_case"], 1, true⟩ j
  some {
    key := ← Json.required ms "field" fun v => (choice? v).bind OrderKey.ofColumn?
    direction :=
      ← Json.defaulted ms "direction" (fun v => (choice? v).bind Direction.ofWord?) .ascending
    nulls? := ← Json.optional ms "nulls" fun v => (choice? v).bind NullPlacement.ofWord?
    ignoreCase := ← Json.defaulted ms "ignore_case" Json.bool? false }

end OrderEntry

namespace ListingOrder

/-- By name whatever the case, unnamed filters first, then the newest first. -/
def standard : ListingOrder :=
  ⟨[{ key := .name, nulls? := some .first, ignoreCase := true },
    { key := .created, direction := .descending }]⟩

/-- The `ORDER BY` list. -/
def sql (o : ListingOrder) : String := ", ".intercalate (o.entries.map OrderEntry.sql)

/-- The order of two filters: that of the first attribute that tells them apart. -/
def order (o : ListingOrder) (a b : SavedFilter) : Ordering :=
  o.entries.foldr (fun e later => (e.order a b).then later) .eq

/-- Filters in order. -/
def sort (o : ListingOrder) (filters : List SavedFilter) : List SavedFilter :=
  filters.mergeSort fun a b => o.order a b != .gt

end ListingOrder

end Filterbook

import Filterbook.Json.Basic

/-!
# Toml tables

How headers and dotted keys build a tree. A table is defined once: by its header, or part by part by
dotted keys under one header. A header may name the tables on its way; they stay open to a header of
their own.
-/

namespace Filterbook.Toml

/-- How a table came about. -/
inductive Origin where
  /-- By a header of its own. -/
  | header
  /-- On the way of another table's header. -/
  | passing
  /-- On the way of a dotted key. -/
  | dotted
  deriving DecidableEq

/-- What a name stands for while a document is read. -/
inductive Item where
  /-- A finished value. -/
  | value (v : Json)
  /-- A table. -/
  | table (origin : Origin) (members : List (String × Item))
  /-- A list of tables, each begun by a header in double brackets. -/
  | tables (elements : List (List (String × Item)))

/-- The names of a table with what they stand for. -/
abbrev Members := List (String × Item)

namespace Item

mutual

/-- The finished value of an item. -/
def toJson : Item → Json
  | value v => v
  | table _ members => .obj (membersToJson members)
  | tables elements => .arr (elementsToJson elements)

/-- The finished values of members. -/
def membersToJson : List (String × Item) → List (String × Json)
  | [] => []
  | (name, item) :: rest => (name, toJson item) :: membersToJson rest

/-- The finished values of a list of tables. -/
def elementsToJson : List (List (String × Item)) → List Json
  | [] => []
  | members :: rest => .obj (membersToJson members) :: elementsToJson rest

end

end Item

/-- The first member of a name gets another item. -/
def replaceItem (name : String) (item : Item) : Members → Members
  | [] => []
  | (other, old) :: rest =>
    if other = name then (name, item) :: rest else (other, old) :: replaceItem name item rest

/-- The members without the first of a name. -/
def eraseItem (name : String) : Members → Members
  | [] => []
  | (other, old) :: rest => if other = name then rest else (other, old) :: eraseItem name rest

/-- A change made inside the table at the end of a path, with a result. Tables missing on the way are
made, and the last of a list of tables is entered. A dotted key enters only tables without a header
of their own. The change is told the origin of the table. -/
def within? {α : Type} (byKey : Bool) (change : Origin → Members → Option (Members × α)) :
    Origin → (path : List String) → Members → Option (Members × α)
  | origin, [], members => change origin members
  | _, name :: path, members =>
    let made : Origin := if byKey then .dotted else .passing
    match members.lookup name with
    | none => do
      let (inner, a) ← within? byKey change made path []
      some (members ++ [(name, .table made inner)], a)
    | some (.value _) => none
    | some (.tables elements) => do
      let (inner, a) ← within? byKey change .header path (← elements.getLast?)
      some (replaceItem name (.tables (elements.dropLast ++ [inner])) members, a)
    | some (.table origin inner) =>
      if byKey && origin = .header then none
      else do
        let (inner, a) ← within? byKey change origin path inner
        some (replaceItem name (.table origin inner) members, a)

/-- A path cut before its last name. -/
def splitLast? : List String → Option (List String × String)
  | [] => none
  | [name] => some ([], name)
  | name :: path => (splitLast? path).map fun (front, last) => (name :: front, last)

/-- A value given to a key in a table. The name must be new, and a dotted key may only end in a table
that dotted keys made. -/
def assign? (path : List String) (v : Json) (members : Members) : Option Members := do
  let (front, name) ← splitLast? path
  let put (origin : Origin) (members : Members) : Option (Members × Unit) :=
    if origin ≠ .dotted && !front.isEmpty then none
    else if (members.lookup name).isSome then none
    else some (members ++ [(name, .value v)], ())
  (← within? true put .header front members).1

/-- A document being read: what earlier headers built, and the table under the latest header. -/
structure Draft where
  /-- Everything but the latest table. -/
  root : Members
  /-- The path of the latest header; empty before the first. -/
  path : List String
  /-- Whether the latest header stood in double brackets. -/
  inList : Bool
  /-- The members of the latest table. -/
  members : Members

namespace Draft

/-- A document before anything is read. -/
def empty : Draft := ⟨[], [], false, []⟩

/-- The whole tree, the latest table put in its place. -/
def close? (d : Draft) : Option Members :=
  match splitLast? d.path with
  | none => some d.members
  | some (front, name) =>
    let put (_ : Origin) (members : Members) : Option (Members × Unit) :=
      if d.inList then
        match members.lookup name with
        | some (.tables elements) =>
          some (replaceItem name (.tables (elements ++ [d.members])) members, ())
        | _ => none
      else some (members ++ [(name, .table .header d.members)], ())
    (within? false put .header front d.root).map (·.1)

/-- A table begun by a header. A table that was only passed so far is taken up again and moves to the
end. -/
def startTable? (d : Draft) (path : List String) : Option Draft := do
  let root ← d.close?
  let (front, name) ← splitLast? path
  let take (_ : Origin) (members : Members) : Option (Members × Members) :=
    match members.lookup name with
    | none => some (members, [])
    | some (.table .passing inner) => some (eraseItem name members, inner)
    | _ => none
  let (root, inner) ← within? false take .header front root
  some ⟨root, path, false, inner⟩

/-- A table begun by a header in double brackets, added to the list of its name. -/
def startElement? (d : Draft) (path : List String) : Option Draft := do
  let root ← d.close?
  let (front, name) ← splitLast? path
  let take (_ : Origin) (members : Members) : Option (Members × Unit) :=
    match members.lookup name with
    | none => some (members ++ [(name, .tables [])], ())
    | some (.tables _) => some (members, ())
    | _ => none
  let (root, _) ← within? false take .header front root
  some ⟨root, path, true, []⟩

/-- A value given to a key under the latest header. -/
def assign? (d : Draft) (path : List String) (v : Json) : Option Draft :=
  (Toml.assign? path v d.members).map fun members => { d with members := members }

end Draft

end Filterbook.Toml

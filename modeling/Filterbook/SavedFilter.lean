import Filterbook.Clause.Basic
import Filterbook.Calendar.Pattern

/-!
# Saved filters

A named list of clauses for one model. Identity, target, owner and time of creation are fixed when it
is made; an ephemeral filter is deleted after its first use.
-/

namespace Filterbook

open Filterbook.Calendar

/-- The number of a user. -/
abbrev UserId := Int

/-- A saved filter. -/
structure SavedFilter where
  /-- The identity. -/
  id : Uuid
  /-- The name, if it has one. -/
  name? : Option String := none
  /-- A description, if it has one. -/
  description? : Option String := none
  /-- The model that it filters. -/
  target : String
  /-- The user who made it. -/
  owner : UserId
  /-- When it was made, in UTC. -/
  created : DateTime
  /-- Whether it is deleted after its first use. -/
  ephemeral : Bool := false
  /-- The clauses. -/
  clauses : List Clause := []
  deriving DecidableEq

namespace SavedFilter

/-- The name, or the time of creation when there is no name to show. -/
def displayName (f : SavedFilter) : String :=
  match f.name? with
  | some name => if name = "" then f.created.secondsText else name
  | none => f.created.secondsText

/-- The user made the filter. -/
def isOwnedBy (f : SavedFilter) (user : UserId) : Bool := f.owner = user

/-- The number of clauses that are no separators. -/
def comparisonCount (f : SavedFilter) : Nat := (f.clauses.filter fun c => !c.isSeparator).length

/-- A text or `null`. -/
def textOrNull : Option String → Json
  | some s => .str s
  | none => .null

/-- The Json form of a saved filter. -/
def toJson (f : SavedFilter) : Json :=
  .obj [("id", .str f.id.text), ("name", textOrNull f.name?),
    ("description", textOrNull f.description?), ("target", .str f.target), ("owner", .int f.owner),
    ("created", .str f.created.instantText), ("ephemeral", .bool f.ephemeral),
    ("clauses", .arr (f.clauses.map Clause.toJson))]

/-- The names of the members of a saved filter. -/
def memberNames : List String :=
  ["id", "name", "description", "target", "owner", "created", "ephemeral", "clauses"]

/-- An identifier written as text. -/
def idOfJson? (j : Json) : Option Uuid := j.text?.bind Uuid.read?

/-- The saved filter that a Json value writes. -/
def ofJson? (j : Json) : Option SavedFilter := do
  let ms ← Json.Shape.members? ⟨memberNames, 6, false⟩ j
  some {
    id := ← Json.required ms "id" idOfJson?
    name? := ← Json.optional ms "name" Json.text?
    description? := ← Json.optional ms "description" Json.text?
    target := ← Json.required ms "target" Json.text?
    owner := ← Json.required ms "owner" Json.int64?
    created := ← Json.required ms "created" fun v => v.text?.bind readInstant?
    ephemeral := ← Json.defaulted ms "ephemeral" Json.bool? false
    clauses := ← Json.defaulted ms "clauses" (Json.list? Clause.ofJson?) [] }

end SavedFilter

end Filterbook

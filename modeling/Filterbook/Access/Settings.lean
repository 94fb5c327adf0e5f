import Filterbook.Json.Record

/-!
# Access settings

For each action, whether the owner of a filter alone may do it, and whether grants on single filters
count.
-/

namespace Filterbook

/-- Settings of access. -/
structure AccessSettings where
  /-- Only the owner may see a filter. -/
  viewOwnerOnly : Bool := true
  /-- Only the owner may change a filter. -/
  changeOwnerOnly : Bool := true
  /-- Only the owner may delete a filter. -/
  deleteOwnerOnly : Bool := true
  /-- Grants on single filters count. -/
  filterGrantsCount : Bool := false
  deriving DecidableEq, Repr

namespace AccessSettings

/-- No action is kept for owners. -/
def shared : AccessSettings :=
  { viewOwnerOnly := false, changeOwnerOnly := false, deleteOwnerOnly := false }

/-- The names of the settings as written. -/
def memberNames : List String :=
  ["view_owner_only", "change_owner_only", "delete_owner_only", "use_object_level_permissions"]

/-- The Json form of the settings. -/
def toJson (s : AccessSettings) : Json :=
  .obj (memberNames.zip
    ([s.viewOwnerOnly, s.changeOwnerOnly, s.deleteOwnerOnly, s.filterGrantsCount].map Json.bool))

/-- The settings that a value writes. -/
def ofJson? (j : Json) : Option AccessSettings := do
  let ms ← Json.Shape.members? ⟨memberNames, 0, true⟩ j
  some {
    viewOwnerOnly := ← Json.defaulted ms "view_owner_only" Json.bool? true
    changeOwnerOnly := ← Json.defaulted ms "change_owner_only" Json.bool? true
    deleteOwnerOnly := ← Json.defaulted ms "delete_owner_only" Json.bool? true
    filterGrantsCount := ← Json.defaulted ms "use_object_level_permissions" Json.bool? false }

end AccessSettings

end Filterbook

import Filterbook.Access.Settings
import Filterbook.SavedFilter
import Filterbook.Roster

/-!
# Access to saved filters

Who may do what to a saved filter. Superusers may do everything. Others need access to the records
that the filter selects; then owners may do everything with their filters, and the rest is a matter of
grants: on saved filters as a class, or on a single filter where such grants count, unless the action
is kept for owners. A denial is an answer and no error.
-/

namespace Filterbook

/-- The resource under which grants on all saved filters are held. -/
def filterResource : String := "ModelFilter"

/-- A user who asks for something. -/
structure User where
  /-- The number of the user. -/
  id : UserId
  /-- Whether every check passes. -/
  isSuperuser : Bool := false
  /-- Whether the user may reach the administration. -/
  isStaff : Bool := false
  deriving DecidableEq, Repr

/-- The user that a Json value writes. -/
def User.ofJson? (j : Json) : Option User := do
  let ms ← Json.Shape.members? ⟨["id", "is_superuser", "is_staff"], 1, false⟩ j
  some {
    id := ← Json.required ms "id" Json.int64?
    isSuperuser := ← Json.defaulted ms "is_superuser" Json.bool? false
    isStaff := ← Json.defaulted ms "is_staff" Json.bool? false }

/-- What may be done to a filter or to records. -/
inductive Action where
  /-- See it. -/
  | view
  /-- Change it. -/
  | change
  /-- Delete it. -/
  | delete
  deriving DecidableEq, Repr

/-- The word for an action. -/
def Action.word : Action → String
  | view => "view"
  | change => "change"
  | delete => "delete"

/-- The action with a word. -/
def Action.ofWord? (s : String) : Option Action := [view, change, delete].find? (·.word == s)

/-- An action granted to a user on everything of a kind. -/
structure ClassGrant where
  /-- The user. -/
  user : UserId
  /-- A model, or the resource of saved filters. -/
  resource : String
  /-- The action. -/
  action : Action
  deriving DecidableEq, Repr

/-- An action granted to a user on one saved filter. -/
structure FilterGrant where
  /-- The user. -/
  user : UserId
  /-- The identity of the filter. -/
  filter : Uuid
  /-- The action. -/
  action : Action
  deriving DecidableEq

/-- Grants by class. -/
abbrev ClassGrants := Roster ClassGrant id

/-- Grants on single filters. -/
abbrev FilterGrants := Roster FilterGrant id

/-- What decides about access. -/
structure Access where
  /-- The settings. -/
  settings : AccessSettings := {}
  /-- The grants by class. -/
  classGrants : ClassGrants := .empty
  /-- The grants on single filters, where they are kept at all. -/
  filterGrants? : Option FilterGrants := none

namespace Access

/-- The grants on single filters, if they are kept and count. -/
def countedGrants? (a : Access) : Option FilterGrants :=
  if a.settings.filterGrantsCount then a.filterGrants? else none

/-- The action is kept for owners. -/
def isOwnerOnly (a : Access) : Action → Bool
  | .view => a.settings.viewOwnerOnly
  | .change => a.settings.changeOwnerOnly
  | .delete => a.settings.deleteOwnerOnly

/-- The user holds an action on everything of a kind. -/
def holds (a : Access) (user : User) (resource : String) (action : Action) : Bool :=
  user.isSuperuser || a.classGrants.contains ⟨user.id, resource, action⟩

/-- The user holds an action on one saved filter, by itself or with all others. -/
def holdsOn (a : Access) (user : User) (action : Action) (f : SavedFilter) : Bool :=
  a.holds user filterResource action ||
    a.countedGrants?.any fun grants => grants.contains ⟨user.id, f.id, action⟩

/-- The user may see or change the records of a model. -/
def reaches (a : Access) (user : User) (model : String) : Bool :=
  a.holds user model .view || a.holds user model .change

/-- The user may do something to a filter; without a filter, in principle. -/
def can (a : Access) (user : User) (action : Action) : Option SavedFilter → Bool
  | none => true
  | some f =>
    user.isSuperuser ||
      (a.reaches user f.target &&
        (f.isOwnedBy user.id || (!a.isOwnerOnly action && a.holdsOn user action f)))

/-- The user may make filters for a model. -/
def canAdd (a : Access) (user : User) : (target? : Option String) → Bool
  | none => false
  | some model => user.isSuperuser || a.reaches user model

/-- The user may reach the administration of filters. -/
def canAdminister (_ : Access) (user : User) : Bool := user.isStaff || user.isSuperuser

/-- A list view offers the user to edit a filter. Access to the records does not matter here. -/
def offersChange (a : Access) (user : User) (f : SavedFilter) : Bool :=
  f.isOwnedBy user.id || (!a.settings.changeOwnerOnly && a.holdsOn user .change f)

/-! ### Grants -/

/-- The access with an action granted on everything of a kind. -/
def grant (a : Access) (g : ClassGrant) : Access := { a with classGrants := a.classGrants.insert g }

/-- The access with such a grant withdrawn. -/
def revoke (a : Access) (g : ClassGrant) : Access := { a with classGrants := a.classGrants.erase g }

/-- The access with an action granted on one filter, where such grants are kept. -/
def grantOn (a : Access) (g : FilterGrant) : Access :=
  { a with filterGrants? := a.filterGrants?.map (·.insert g) }

/-- The access with such a grant withdrawn. -/
def revokeOn (a : Access) (g : FilterGrant) : Access :=
  { a with filterGrants? := a.filterGrants?.map (·.erase g) }

end Access

end Filterbook

import Filterbook.Access.Basic

/-!
# Scopes

Which saved filters a listing may show to a user, as a description that can be checked filter by
filter.
-/

namespace Filterbook

/-- A set of saved filters. -/
inductive Scope where
  /-- Every filter. -/
  | all
  /-- The filters of a user. -/
  | owned (owner : UserId)
  /-- The filters of a user, and others one by one. -/
  | ownedOrGranted (owner : UserId) (granted : List Uuid)
  deriving DecidableEq

/-- A filter belongs to a scope. -/
def Scope.contains : Scope → SavedFilter → Bool
  | all, _ => true
  | owned owner, f => f.isOwnedBy owner
  | ownedOrGranted owner granted, f => f.isOwnedBy owner || granted.contains f.id

/-- The filters on which a user holds an action, one by one. -/
def FilterGrants.filtersFor (grants : FilterGrants) (user : User) (action : Action) : List Uuid :=
  (grants.entries.filter fun g => g.user = user.id && g.action = action).map (·.filter)

/-- The filters that a user may see in a listing or a menu. -/
def Access.visibility (a : Access) (user : User) : Scope :=
  if a.settings.viewOwnerOnly then .owned user.id
  else if a.holds user filterResource .view then .all
  else match a.countedGrants? with
    | some grants => .ownedOrGranted user.id (grants.filtersFor user .view)
    | none => .owned user.id

end Filterbook

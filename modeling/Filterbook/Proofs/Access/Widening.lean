import Filterbook.Proofs.Access.Visibility

/-!
# Wider and narrower access

Grants only ever give: with one grant more, on everything of a kind or on a single filter, nobody loses a
permission, although a grant may change the form in which the visible filters are described. Settings
only ever take away: with an action kept for owners, or with grants on single filters no longer counted,
nobody wins one.

## What is proved

* `Within`: one access has no grant that another lacks and keeps every action for owners that the other
  keeps. It orders accesses, and giving a grant and changing a setting are steps up or down in it
  (`within_grant`, `within_grantOn`, `keepForOwners_within`, `ignoreFilterGrants_within`).
* `Within.allowedBy`: whatever the narrower access allows, the wider one allows.
* `permissions_are_monotone`: both together, for each of the changes; and a new grant that is withdrawn
  leaves the access as it was.
-/

namespace Filterbook

/-- The settings with an action kept for owners. -/
def AccessSettings.keepForOwners (s : AccessSettings) : Action → AccessSettings
  | .view => { s with viewOwnerOnly := true }
  | .change => { s with changeOwnerOnly := true }
  | .delete => { s with deleteOwnerOnly := true }

namespace Access

/-! ### Changes -/

/-- An action kept for owners. -/
def keepForOwners (a : Access) (action : Action) : Access :=
  { a with settings := a.settings.keepForOwners action }

/-- Grants on single filters no longer counted. -/
def ignoreFilterGrants (a : Access) : Access :=
  { a with settings := { a.settings with filterGrantsCount := false } }

/-- A grant on a single filter is held, whether or not such grants count. -/
def keepsGrantOn (a : Access) (g : FilterGrant) : Bool := a.filterGrants?.any (·.contains g)

/-- A grant on a single filter is held and counts. -/
def countsGrantOn (a : Access) (g : FilterGrant) : Bool := a.countedGrants?.any (·.contains g)

/-! ### The order of accesses -/

/-- An access is within another: the other keeps for owners what is kept there at most, and holds the
same grants at least. -/
structure Within (a b : Access) : Prop where
  /-- What the wider access keeps for owners, the narrower one keeps for them. -/
  ownerOnly : ∀ {action}, b.isOwnerOnly action = true → a.isOwnerOnly action = true
  /-- The wider access has the grants by class of the narrower one. -/
  classGrant : ∀ {g}, a.classGrants.contains g = true → b.classGrants.contains g = true
  /-- The grants on single filters that count in the narrower access count in the wider one. -/
  filterGrant : ∀ {g}, a.countsGrantOn g = true → b.countsGrantOn g = true

/-- Every permission that one access gives, the other gives. -/
structure AllowedBy (a b : Access) : Prop where
  /-- To do something to a filter. -/
  can : ∀ {user action f?}, a.can user action f? = true → b.can user action f? = true
  /-- To make filters for a model. -/
  canAdd : ∀ {user target?}, a.canAdd user target? = true → b.canAdd user target? = true
  /-- To see or change the records of a model. -/
  reaches : ∀ {user model}, a.reaches user model = true → b.reaches user model = true
  /-- To be offered an edit of a filter. -/
  offersChange : ∀ {user f}, a.offersChange user f = true → b.offersChange user f = true
  /-- To have a filter among the visible ones. -/
  visible : ∀ {user f},
    (a.visibility user).contains f = true → (b.visibility user).contains f = true

namespace Within

variable {a b c : Access} {user : User} {f : SavedFilter}

theorem refl (a : Access) : a.Within a := ⟨id, id, id⟩

theorem trans (hab : a.Within b) (hbc : b.Within c) : a.Within c where
  ownerOnly h := hab.ownerOnly (hbc.ownerOnly h)
  classGrant h := hbc.classGrant (hab.classGrant h)
  filterGrant h := hbc.filterGrant (hab.filterGrant h)

/-- What the narrower access leaves open, the wider one leaves open. -/
theorem not_ownerOnly (h : a.Within b) {action : Action} (hopen : (!a.isOwnerOnly action) = true) :
    (!b.isOwnerOnly action) = true := by
  rw [Bool.not_eq_true'] at hopen ⊢
  cases hkept : b.isOwnerOnly action with
  | false => rfl
  | true => rw [h.ownerOnly hkept] at hopen; cases hopen

theorem holds (h : a.Within b) {resource : String} {action : Action}
    (hholds : a.holds user resource action = true) : b.holds user resource action = true := by
  rw [Access.holds, Bool.or_eq_true] at hholds ⊢
  exact hholds.imp_right h.classGrant

theorem holdsOn (h : a.Within b) {action : Action} (hholds : a.holdsOn user action f = true) :
    b.holdsOn user action f = true := by
  rw [Access.holdsOn, Bool.or_eq_true] at hholds ⊢
  exact hholds.imp h.holds h.filterGrant

/-- What the action needs besides access to the records, of those who do not own the filter. -/
theorem open_and_holdsOn (h : a.Within b) {action : Action}
    (hboth : (!a.isOwnerOnly action && a.holdsOn user action f) = true) :
    (!b.isOwnerOnly action && b.holdsOn user action f) = true := by
  rw [Bool.and_eq_true] at hboth ⊢
  exact hboth.imp h.not_ownerOnly h.holdsOn

theorem reaches (h : a.Within b) {model : String} (hreaches : a.reaches user model = true) :
    b.reaches user model = true := by
  rw [Access.reaches, Bool.or_eq_true] at hreaches ⊢
  exact hreaches.imp h.holds h.holds

theorem can (h : a.Within b) {action : Action} {f? : Option SavedFilter}
    (hcan : a.can user action f? = true) : b.can user action f? = true := by
  cases f? with
  | none => rfl
  | some f =>
    rw [Access.can, Bool.or_eq_true, Bool.and_eq_true, Bool.or_eq_true] at hcan ⊢
    exact hcan.imp_right (And.imp h.reaches (Or.imp_right h.open_and_holdsOn))

theorem canAdd (h : a.Within b) {target? : Option String}
    (hcan : a.canAdd user target? = true) : b.canAdd user target? = true := by
  cases target? with
  | none => cases hcan
  | some model =>
    rw [Access.canAdd, Bool.or_eq_true] at hcan ⊢
    exact hcan.imp_right h.reaches

theorem offersChange (h : a.Within b) (hoffers : a.offersChange user f = true) :
    b.offersChange user f = true := by
  have hopen : (!a.isOwnerOnly .change && a.holdsOn user .change f) = true →
      (!b.isOwnerOnly .change && b.holdsOn user .change f) = true := h.open_and_holdsOn
  rw [Access.offersChange, Bool.or_eq_true] at hoffers ⊢
  exact hoffers.imp_right hopen

/-- A scope may change its form, but it loses no filter. -/
theorem visible (h : a.Within b) (hvisible : (a.visibility user).contains f = true) :
    (b.visibility user).contains f = true := by
  rw [contains_visibility, Bool.or_eq_true] at hvisible ⊢
  exact hvisible.imp_right h.open_and_holdsOn

/-- **Permissions are monotone**: a wider access allows what a narrower one allows. -/
theorem allowedBy (h : a.Within b) : a.AllowedBy b :=
  ⟨h.can, h.canAdd, h.reaches, h.offersChange, h.visible⟩

end Within

/-! ### Steps up and down -/

theorem isOwnerOnly_keepForOwners (a : Access) (kept action : Action) :
    (a.keepForOwners kept).isOwnerOnly action = (a.isOwnerOnly action || kept = action) := by
  cases kept <;> cases action <;> simp [keepForOwners, AccessSettings.keepForOwners, isOwnerOnly]

theorem within_grant (a : Access) (g : ClassGrant) : a.Within (a.grant g) where
  ownerOnly := id
  classGrant h := Roster.contains_insert_of_contains h g
  filterGrant := id

theorem countsGrantOn_eq (a : Access) (g : FilterGrant) :
    a.countsGrantOn g = (a.settings.filterGrantsCount && a.keepsGrantOn g) := by
  unfold countsGrantOn countedGrants? keepsGrantOn
  split <;> simp_all

theorem keepsGrantOn_grantOn (a : Access) (g : FilterGrant) {held : FilterGrant}
    (h : a.keepsGrantOn held = true) : (a.grantOn g).keepsGrantOn held = true := by
  unfold keepsGrantOn grantOn at *
  cases hgrants : a.filterGrants? with
  | none => rw [hgrants] at h; cases h
  | some grants =>
    rw [hgrants] at h
    exact Roster.contains_insert_of_contains h g

theorem within_grantOn (a : Access) (g : FilterGrant) : a.Within (a.grantOn g) where
  ownerOnly := id
  classGrant := id
  filterGrant h := by
    rw [countsGrantOn_eq, Bool.and_eq_true] at h ⊢
    exact h.imp_right (keepsGrantOn_grantOn a g)

theorem keepForOwners_within (a : Access) (action : Action) : (a.keepForOwners action).Within a where
  ownerOnly h := by rw [isOwnerOnly_keepForOwners, h, Bool.true_or]
  classGrant := id
  filterGrant h := by
    rw [countsGrantOn_eq] at h ⊢
    cases action <;> exact h

theorem ignoreFilterGrants_within (a : Access) : a.ignoreFilterGrants.Within a where
  ownerOnly {action} h := by cases action <;> exact h
  classGrant := id
  filterGrant h := by
    rw [countsGrantOn_eq] at h
    cases h

theorem revoke_grant {a : Access} {g : ClassGrant} (h : a.classGrants.contains g = false) :
    (a.grant g).revoke g = a := by
  have hgrants : (a.classGrants.insert g).erase g = a.classGrants := Roster.erase_insert_of_absent h
  unfold revoke grant
  rw [hgrants]

theorem revokeOn_grantOn {a : Access} {g : FilterGrant} (h : a.keepsGrantOn g = false) :
    (a.grantOn g).revokeOn g = a := by
  obtain ⟨settings, classGrants, filterGrants?⟩ := a
  cases filterGrants? with
  | none => rfl
  | some grants =>
    have hgrants : (grants.insert g).erase g = grants := Roster.erase_insert_of_absent h
    simp only [grantOn, revokeOn, Option.map_some, hgrants]

/-- **Permissions are monotone.** A grant given takes no permission from anybody; an action kept for
owners, or grants on single filters no longer counted, give no permission to anybody; and a new grant,
given and withdrawn, leaves the access as it was, with all of its answers. -/
theorem permissions_are_monotone (a : Access) :
    (∀ g, a.AllowedBy (a.grant g)) ∧ (∀ g, a.AllowedBy (a.grantOn g)) ∧
      (∀ action, (a.keepForOwners action).AllowedBy a) ∧ a.ignoreFilterGrants.AllowedBy a ∧
      (∀ g, a.classGrants.contains g = false → (a.grant g).revoke g = a) ∧
      ∀ g, a.keepsGrantOn g = false → (a.grantOn g).revokeOn g = a := by
  refine ⟨fun g => (within_grant a g).allowedBy, fun g => (within_grantOn a g).allowedBy,
    fun action => (keepForOwners_within a action).allowedBy, (ignoreFilterGrants_within a).allowedBy,
    fun g => revoke_grant, fun g => revokeOn_grantOn⟩

/-- A second user is granted the sight of all filters, and a third one the sight of the customers'. -/
theorem permissions_are_monotone_shared :
    (sharedWithOne.classGrants.contains ⟨2, filterResource, .view⟩ = false ∧
        (sharedWithOne.grant ⟨2, filterResource, .view⟩).visibility ⟨2, false, false⟩ = .all ∧
        (sharedWithOne.grant ⟨2, filterResource, .view⟩).can ⟨2, false, false⟩ .view
          (some customerFilter) = true ∧
        (sharedWithOne.grant ⟨2, filterResource, .view⟩).revoke ⟨2, filterResource, .view⟩ =
          sharedWithOne) ∧
      sharedWithOne.keepsGrantOn ⟨3, customerFilter.id, .view⟩ = false ∧
      (sharedWithOne.grantOn ⟨3, customerFilter.id, .view⟩).revokeOn ⟨3, customerFilter.id, .view⟩ =
        sharedWithOne := by
  obtain ⟨hgrant, -, -, -, hrevoke, hrevokeOn⟩ := permissions_are_monotone sharedWithOne
  have hclass : sharedWithOne.classGrants.contains ⟨2, filterResource, .view⟩ = false := by decide
  have hfilter : sharedWithOne.keepsGrantOn ⟨3, customerFilter.id, .view⟩ = false := by decide
  have hcan : sharedWithOne.can ⟨2, false, false⟩ .view (some customerFilter) = true := by decide
  exact ⟨⟨hclass, by decide, (hgrant _).can hcan, hrevoke _ hclass⟩, hfilter, hrevokeOn _ hfilter⟩

end Access

end Filterbook

import Filterbook.Access.Scope

/-!
# Permission and visibility

Who may see a saved filter is said twice: for one user and one filter, as a chain of decisions
(`Access.can`), and for one user and all filters at once, as a set that listings and menus are cut
down to (`Access.visibility`). The first asks for access to the records, and reads the grants on a
filter one at a time; the second leaves the records out, and reads all grants of a user together.

## What is proved

* `contains_filtersFor`: a filter is among those granted to a user when the grant is held.
* `contains_visibility`: a set of visible filters, decided filter by filter. It does not matter which of
  the three forms of a set describes it.
* `can_view_iff_visible`: to see a filter, a user needs access to its records and must have it among the
  visible ones; superusers see everything, though the set of what is visible to them may be smaller.
-/

namespace Filterbook

/-- Grants on single filters, read one by one and all together. -/
theorem FilterGrants.contains_filtersFor (grants : FilterGrants) (user : User) (action : Action)
    (id : Uuid) :
    (grants.filtersFor user action).contains id = grants.contains ⟨user.id, id, action⟩ := by
  have hkeys : grants.keys = grants.entries := List.map_id _
  rw [Bool.eq_iff_iff, List.contains_iff_mem, Roster.contains_iff_mem_keys, hkeys, filtersFor,
    List.mem_map]
  constructor
  · rintro ⟨⟨u, i, act⟩, hg, rfl⟩
    simp only [List.mem_filter, Bool.and_eq_true, decide_eq_true_eq] at hg
    obtain ⟨hmem, rfl, rfl⟩ := hg
    exact hmem
  · intro hmem
    exact ⟨_, List.mem_filter.mpr ⟨hmem, by simp⟩, rfl⟩

namespace Access

variable (a : Access) (user : User)

/-- **What is visible**, filter by filter: the user's own filters, and all on which the user holds the
right to see them, unless seeing is kept for owners. -/
theorem contains_visibility (f : SavedFilter) :
    (a.visibility user).contains f =
      (f.isOwnedBy user.id || (!a.isOwnerOnly .view && a.holdsOn user .view f)) := by
  unfold visibility isOwnerOnly holdsOn
  cases a.settings.viewOwnerOnly with
  | true => simp [Scope.contains]
  | false =>
    cases a.holds user filterResource .view with
    | true => simp [Scope.contains]
    | false =>
      cases a.countedGrants? with
      | none => simp [Scope.contains]
      | some grants =>
        change (f.isOwnedBy user.id || (grants.filtersFor user .view).contains f.id) = _
        rw [FilterGrants.contains_filtersFor]
        simp

/-- Both ways to say who may see a filter, for all users at once. -/
theorem can_view_eq (f : SavedFilter) :
    a.can user .view (some f) =
      (user.isSuperuser || (a.reaches user f.target && (a.visibility user).contains f)) := by
  rw [contains_visibility, can]

variable {a user}

theorem can_view_iff (h : user.isSuperuser = false) {f : SavedFilter} :
    a.can user .view (some f) = true ↔
      a.reaches user f.target = true ∧ (a.visibility user).contains f = true := by
  rw [can_view_eq, h, Bool.false_or, Bool.and_eq_true]

theorem can_of_superuser (h : user.isSuperuser = true) (action : Action) (f? : Option SavedFilter) :
    a.can user action f? = true := by
  cases f? with
  | none => rfl
  | some f => rw [can, h, Bool.true_or]

/-- A superuser holds every right, so only the setting decides what is visible. -/
theorem visibility_of_superuser (h : user.isSuperuser = true) :
    a.visibility user = if a.settings.viewOwnerOnly then .owned user.id else .all := by
  simp [visibility, holds, h]

/-- **Permission and visibility agree**: who is no superuser may see a filter exactly when the user has
access to the records of its model and the filter is among the visible ones. A superuser may do
everything, while what is visible to a superuser is everything, or, where seeing is kept for owners,
only the superuser's own filters. -/
theorem can_view_iff_visible (a : Access) (user : User) :
    (user.isSuperuser = false →
        ∀ f, a.can user .view (some f) = true ↔
          a.reaches user f.target = true ∧ (a.visibility user).contains f = true) ∧
      (user.isSuperuser = true →
        (∀ action f?, a.can user action f? = true) ∧
          a.visibility user = if a.settings.viewOwnerOnly then .owned user.id else .all) :=
  ⟨fun h _ => can_view_iff h, fun h => ⟨can_of_superuser h, visibility_of_superuser h⟩⟩

/-- A filter on customers that user 1 made. -/
def customerFilter : SavedFilter where
  id := .ofNat 5
  target := "Customer"
  owner := 1
  created := ⟨⟨2024, 3, 1, rfl⟩, .midnight⟩

/-- Filters are shared, and user 2, who may change customers, is granted the sight of one. -/
def sharedWithOne : Access where
  settings := { AccessSettings.shared with filterGrantsCount := true }
  classGrants := .ofList [⟨2, "Customer", .change⟩]
  filterGrants? := some (.ofList [⟨2, customerFilter.id, .view⟩])

theorem can_view_iff_visible_granted :
    (sharedWithOne.can ⟨2, false, false⟩ .view (some customerFilter) = true ∧
        sharedWithOne.reaches ⟨2, false, false⟩ "Customer" = true ∧
        (sharedWithOne.visibility ⟨2, false, false⟩).contains customerFilter = true) ∧
      Access.can {} ⟨9, true, false⟩ .delete (some customerFilter) = true ∧
      Access.visibility {} ⟨9, true, false⟩ = .owned 9 := by
  have hgranted := (can_view_iff_visible sharedWithOne ⟨2, false, false⟩).1 rfl customerFilter
  have hcan : sharedWithOne.can ⟨2, false, false⟩ .view (some customerFilter) = true := by decide
  obtain ⟨hall, hown⟩ := (can_view_iff_visible {} ⟨9, true, false⟩).2 rfl
  exact ⟨⟨hcan, hgranted.mp hcan⟩, hall .delete (some customerFilter), hown⟩

end Access

end Filterbook

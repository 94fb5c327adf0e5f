import Filterbook.Proofs.Service.Operations

/-!
# Denials reveal nothing

Whoever may not do something with a filter is answered as if there were none. A denied call is run
twice here, on a storage that has the filter and on that storage without it: both runs end in the same
error, with its circumstances, and neither touches its storage (`Call.Conceals`). What a menu shows is
the same where all that the user may not see is gone.

## What is proved

* `conceals_of_denied`: a call that asks for permission first conceals a filter from those who do not
  have it. Looking up, changing and deleting are such calls; a draft is not looked at before.
* `conceals_apply`: an application conceals filters of other models, and those out of the user's sight.
* `lookups_within`: a menu depends only on the filters in the user's sight.
* `denials_reveal_nothing`: all of this together, for every storage, user, filter and draft.
-/

namespace Filterbook

/-! ### Storages with less in them -/

/-- The repository with only the filters of a scope. -/
def Repository.within (r : Repository) (scope : Scope) : Repository where
  filters :=
    { entries := r.filters.entries.filter scope.contains
      nodup := r.filters.nodup.sublist (List.filter_sublist.map SavedFilter.id) }

namespace Repository

variable {r : Repository} {q : ListQuery} {id : Uuid} {f : SavedFilter}

theorem find?_of_not_admits (h : r.get? id = some f) (hq : q.admits f = false) :
    r.find? q id = none := by
  rw [find?, h, Option.filter_some, if_neg (by simp [hq])]

/-- A query lists the same filters where those out of its scope are gone. -/
theorem list_within (r : Repository) (q : ListQuery) : (r.within q.scope).list q = r.list q := by
  have hadmits : ∀ f, (q.admits f && q.scope.contains f) = q.admits f := by
    intro f
    rw [ListQuery.admits]
    cases q.scope.contains f <;> simp
  simp only [list, within, List.filter_filter, hadmits]

end Repository

namespace Storage

/-- The storage with only the filters of a scope. -/
def within (st : Storage) (scope : Scope) : Storage := st.withRepository (st.repository.within scope)

end Storage

/-- A call fails on a storage and on the same storage without a filter, with one error, and leaves both
as they are. -/
def Call.Conceals {α : Type} (c : Call (Except QueryError α)) (st : Storage) (id : Uuid) : Prop :=
  ∃ e, c.run st = (.error e, st) ∧ c.run (st.without id) = (.error e, st.without id)

namespace Service

variable {s : Service} {user : User} {st : Storage} {f : SavedFilter}

/-! ### Permission -/

/-- A call that asks for permission first, and is refused it as for a filter that does not exist,
conceals the filter. -/
theorem conceals_of_denied {α : Type} {c : Call (Except QueryError α)} {action : Action}
    (hrefused : ∀ st, s.permitted user action (st.repository.get? f.id) = .error noFilter →
      c.run st = (.error noFilter, st))
    (hf : st.repository.get? f.id = some f) (hcan : s.access.can user action (some f) = false) :
    c.Conceals st f.id := by
  refine ⟨noFilter, hrefused st ?_, hrefused (st.without f.id) ?_⟩
  · rw [hf]
    exact permitted_of_not_can s user hcan
  · rw [Storage.get?_without]
    exact permitted_none s user action

theorem conceals_get (hf : st.repository.get? f.id = some f)
    (hcan : s.access.can user .view (some f) = false) : (s.get user f.id).Conceals st f.id := by
  refine conceals_of_denied (fun st' h => ?_) hf hcan
  rw [get_run, h]

theorem conceals_update (hf : st.repository.get? f.id = some f)
    (hcan : s.access.can user .change (some f) = false) (draft : FilterDraft) :
    (s.update user f.id draft).Conceals st f.id := by
  refine conceals_of_denied (fun st' h => ?_) hf hcan
  rw [update_run, h]
  rfl

theorem conceals_delete (hf : st.repository.get? f.id = some f)
    (hcan : s.access.can user .delete (some f) = false) : (s.delete user f.id).Conceals st f.id := by
  refine conceals_of_denied (fun st' h => ?_) hf hcan
  rw [delete_run, h]

/-- Whether something may be done to a filter is denied as for a filter that does not exist. -/
theorem check_of_denied (hf : st.repository.get? f.id = some f) {action : Action}
    (hcan : s.access.can user action (some f) = false) :
    (s.check user action (some f.id)).run st = (false, st) ∧
      (s.check user action (some f.id)).run (st.without f.id) = (false, st.without f.id) := by
  rw [check_run, check_run, hf, Storage.get?_without, Option.any_some, Option.any_none, hcan]
  exact ⟨rfl, rfl⟩

/-! ### Sight -/

/-- A filter is out of a user's sight when the user looks for filters of a model: it is for another
model, or the user has no access to the records, or may not see it. -/
def OutOfSight (s : Service) (user : User) (target : String) (f : SavedFilter) : Prop :=
  f.target ≠ target ∨ s.access.reaches user target = false ∨
    (s.access.visibility user).contains f = false

theorem not_admits_of_outOfSight {target : String} (h : s.OutOfSight user target f)
    (hreaches : s.access.reaches user target = true) :
    (s.visibleQuery user target).admits f = false := by
  rcases h with htarget | hno | hhidden
  · simp [visibleQuery, ListQuery.admits, Ne.symm htarget]
  · rw [hreaches] at hno
    cases hno
  · simp [visibleQuery, ListQuery.admits, hhidden]

/-- An application that finds nothing, or is not allowed to look, fails in one way. -/
theorem apply_run_of_not_found {target : String} {id : Uuid}
    (h : s.access.reaches user target = true →
      st.repository.find? (s.visibleQuery user target) id = none) :
    (s.apply user target id).run st = (.error (noFilterFor target), st) := by
  rw [apply_run]
  split
  · next hreaches => rw [h hreaches]
  · rfl

theorem conceals_apply (hf : st.repository.get? f.id = some f) {target : String}
    (h : s.OutOfSight user target f) : (s.apply user target f.id).Conceals st f.id := by
  refine ⟨noFilterFor target, apply_run_of_not_found fun hreaches => ?_,
    apply_run_of_not_found fun _ => ?_⟩
  · exact Repository.find?_of_not_admits hf (not_admits_of_outOfSight h hreaches)
  · exact Repository.find?_of_absent (Storage.get?_without st f.id)

/-- A menu is the same where all that its user may not see is gone. -/
theorem lookups_within (s : Service) (user : User) (st : Storage) (target : String) :
    ∃ menu, (s.lookups user target).run st = (menu, st) ∧
      (s.lookups user target).run (st.within (s.access.visibility user)) =
        (menu, st.within (s.access.visibility user)) := by
  rw [lookups_run, lookups_run]
  split
  · have hlist := Repository.list_within st.repository (s.visibleQuery user target)
    exact ⟨_, rfl, by rw [← hlist]; rfl⟩
  · exact ⟨[], rfl, rfl⟩

/-! ### Every denial -/

/-- **Denials reveal nothing**: to see, change, delete or apply a filter without being allowed to ends
in the same error, whatever the draft, as where the filter is gone, and the storage stays as it is;
the answer to whether it may be done is no in both cases; and a menu is the same as where everything
out of the user's sight is gone. -/
theorem denials_reveal_nothing (s : Service) (st : Storage) (user : User) (f : SavedFilter)
    (hf : st.repository.get? f.id = some f) :
    (s.access.can user .view (some f) = false → (s.get user f.id).Conceals st f.id) ∧
      (s.access.can user .change (some f) = false →
        ∀ draft, (s.update user f.id draft).Conceals st f.id) ∧
      (s.access.can user .delete (some f) = false → (s.delete user f.id).Conceals st f.id) ∧
      (∀ target, s.OutOfSight user target f → (s.apply user target f.id).Conceals st f.id) ∧
      (∀ action, s.access.can user action (some f) = false →
        (s.check user action (some f.id)).run st = (false, st) ∧
          (s.check user action (some f.id)).run (st.without f.id) = (false, st.without f.id)) ∧
      ∀ target, ∃ menu, (s.lookups user target).run st = (menu, st) ∧
        (s.lookups user target).run (st.within (s.access.visibility user)) =
          (menu, st.within (s.access.visibility user)) :=
  ⟨conceals_get hf, conceals_update hf, conceals_delete hf, fun _ => conceals_apply hf,
    fun _ => check_of_denied hf, lookups_within s user st⟩

/-- A filter of one user. -/
def privateFilter : SavedFilter where
  id := .ofNat 7
  target := "Customer"
  owner := 1
  created := ⟨⟨2024, 2, 29, rfl⟩, .midnight⟩

/-- A storage that has this filter only. -/
def privateStorage : Storage where
  repository := Repository.empty.put privateFilter
  stamps _ := ⟨privateFilter.id, privateFilter.created⟩

theorem denials_reveal_nothing_stranger :
    privateStorage.repository.get? privateFilter.id = some privateFilter ∧
      (Service.get { registry := {} } ⟨2, false, true⟩ privateFilter.id).Conceals privateStorage
        privateFilter.id ∧
      (∀ draft, (Service.update { registry := {} } ⟨2, false, true⟩ privateFilter.id draft).Conceals
        privateStorage privateFilter.id) ∧
      (Service.apply { registry := {} } ⟨2, false, true⟩ "Customer" privateFilter.id).Conceals
        privateStorage privateFilter.id := by
  have hf : privateStorage.repository.get? privateFilter.id = some privateFilter := by decide
  obtain ⟨hget, hupdate, -, happly, -, -⟩ :=
    denials_reveal_nothing { registry := {} } privateStorage ⟨2, false, true⟩ privateFilter hf
  exact ⟨hf, hget (by decide), hupdate (by decide), happly "Customer" (.inr (.inl (by decide)))⟩

end Service

end Filterbook

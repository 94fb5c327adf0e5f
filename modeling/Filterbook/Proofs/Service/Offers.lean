import Filterbook.Proofs.Clause.Stored
import Filterbook.Proofs.Service.Operations
import Filterbook.Service.Fault

/-!
# Offers to edit

Whoever applies a filter is told whether to offer its editing. The answer is found in fewer steps than
the permission to change the filter: access to the records is not asked for again, and nothing is said of
superusers by themselves. The first is no loss, since an application asks for that access before it
looks for the filter. The second is: a superuser may change everything, and is offered only what any
other user with all grants would be.

## What is proved

* `Access.offersChange_iff`: with access to the records, the offer is the permission, but for superusers
  where changes are kept for owners (`Access.Overlooks`).
* `Service.apply_eq_ok`: what an application that goes through has found and returns.
* `Service.accepts_iff`: an update with clauses in order is accepted just with the permission.
* `Service.offered_edits_are_accepted`: so what is offered after an application is accepted, and what is not
  offered is refused, but for the filters that were discarded and for superusers as said.
-/

namespace Filterbook

/-! ### The offer and the permission -/

namespace Access

variable {a : Access} {user : User} {f : SavedFilter}

/-- The user is a superuser who does not own the filter, and changes are kept for owners. -/
def Overlooks (a : Access) (user : User) (f : SavedFilter) : Prop :=
  user.isSuperuser = true ∧ a.settings.changeOwnerOnly = true ∧ f.isOwnedBy user.id = false

/-- **The offer to edit is the permission to change**, for those with access to the records and but for
superusers who are overlooked. -/
theorem offersChange_iff (h : a.reaches user f.target = true) :
    a.offersChange user f = true ↔ a.can user .change (some f) = true ∧ ¬ a.Overlooks user f := by
  simp only [offersChange, can, Overlooks, h, isOwnerOnly, Bool.true_and]
  cases hsuper : user.isSuperuser with
  | false => simp
  | true =>
    -- a superuser holds every grant
    have hgrant : a.holdsOn user .change f = true := by simp [holdsOn, holds, hsuper]
    rw [hgrant]
    cases f.isOwnedBy user.id <;> cases a.settings.changeOwnerOnly <;> simp

end Access

/-! ### Applications and updates -/

/-- Nothing goes wrong with a search. -/
theorem Fault.answer_find (fault? : Option Fault) (st : Storage) (q : ListQuery) (id : Uuid) :
    Fault.answer fault? st (.find q id) = (st.repository.find? q id, st) := by
  rcases fault? with _ | _ | _ | _ <;> rfl

namespace Service

variable {s : Service} {user : User} {target : String} {id : Uuid} {st st' : Storage} {f : SavedFilter}

/-- **What an application that goes through** has found and returns. It leaves the storage as it was, or as it
is after the deletion was asked for. -/
theorem apply_eq_ok {fault? : Option Fault} {used : AppliedFilter}
    (h : (s.apply user target id).runWith (Fault.answer fault?) st = (.ok used, st')) :
    s.access.reaches user target = true ∧
      st.repository.find? (s.visibleQuery user target) id = some used.filter ∧
      used.canChange = (!used.discarded && s.access.offersChange user used.filter) ∧
      st' = if used.discarded then (Fault.answer fault? st (.delete id)).2 else st := by
  unfold apply at h
  split at h
  · next hreaches =>
    rw [Call.runWith, Fault.answer_find] at h
    cases hfind : st.repository.find? (s.visibleQuery user target) id with
    | none => simp [hfind, Call.runWith] at h
    | some f =>
      simp only [hfind] at h
      cases hrows : s.rowsOf target f with
      | error e => simp [hrows, Call.runWith] at h
      | ok rows =>
        simp only [hrows] at h
        split at h
        · -- the filter is to be discarded
          rw [Call.runWith, Call.runWith, Prod.mk.injEq, Except.ok.injEq] at h
          obtain ⟨rfl, rfl⟩ := h
          exact ⟨hreaches, rfl, rfl, rfl⟩
        · rw [Call.runWith, Prod.mk.injEq, Except.ok.injEq] at h
          obtain ⟨rfl, rfl⟩ := h
          exact ⟨hreaches, rfl, rfl, rfl⟩
  · simp [Call.runWith] at h

/-- An update is accepted, and the edited filter takes the place of the other. -/
def Accepts (s : Service) (user : User) (id : Uuid) (draft : FilterDraft) (st : Storage) : Prop :=
  ∃ f, (s.update user id draft).run st = (.ok f, st.withRepository (st.repository.put f))

/-- **An update with clauses in order is accepted just with the permission.** -/
theorem accepts_iff (hf : st.repository.get? id = some f) {draft : FilterDraft} {clauses : List Clause}
    (hvalid : s.checkedClauses f.target draft.clauses = .ok clauses) :
    s.Accepts user id draft st ↔ s.access.can user .change (some f) = true := by
  unfold Accepts
  rw [update_run, hf]
  cases hcan : s.access.can user .change (some f) with
  | false =>
    rw [permitted_of_not_can s user hcan]
    simp [Except.bind]
  | true =>
    rw [permitted_of_can s user hcan]
    simp [Except.bind, edited, hvalid]

/-! ### After an application -/

/-- **What is offered is accepted**: after an application that goes through, whatever may have gone wrong with
the storage, the user is offered to edit the filter just if it was not discarded and the user may change
it, but for superusers who are overlooked; where nothing went wrong, what was discarded is gone; and if the
filter was not discarded, an update with clauses in order is accepted just if the user may change it. -/
theorem offered_edits_are_accepted (s : Service) (user : User) (target : String) (id : Uuid)
    (fault? : Option Fault) (st st' : Storage) (used : AppliedFilter)
    (h : (s.apply user target id).runWith (Fault.answer fault?) st = (.ok used, st')) :
    (used.canChange = true ↔ used.discarded = false ∧
        s.access.can user .change (some used.filter) = true ∧ ¬ s.access.Overlooks user used.filter) ∧
      (fault? = none → (used.discarded = true ↔ st'.repository.get? id = none)) ∧
      (used.discarded = false → ∀ draft clauses,
        s.checkedClauses used.filter.target draft.clauses = .ok clauses →
          (s.Accepts user id draft st' ↔ s.access.can user .change (some used.filter) = true)) := by
  obtain ⟨hreaches, hfind, hflag, hafter⟩ := apply_eq_ok h
  obtain ⟨hstored, hadmits⟩ := Repository.get?_of_find? hfind
  -- access was asked for to the model that the filter is for
  have htarget : target = used.filter.target := by
    simp only [visibleQuery, ListQuery.admits, Bool.and_eq_true, Option.all_some, beq_iff_eq] at hadmits
    exact hadmits.1.2
  refine ⟨?_, ?_, ?_⟩
  · rw [hflag, Bool.and_eq_true, Bool.not_eq_true', Access.offersChange_iff (htarget ▸ hreaches)]
  · rintro rfl
    cases hdiscarded : used.discarded with
    | false => simp [hafter, hdiscarded, hstored]
    | true =>
      have hgone : st' = st.without id := by
        rw [hafter, hdiscarded]
        rfl
      simp [hgone, Storage.get?_without]
  · intro hkept draft clauses hvalid
    have hsame : st' = st := by simp [hafter, hkept]
    rw [hsame]
    exact accepts_iff hstored hvalid

/-- Filters on customers are shared, changes are kept for owners, and user 1 may see customers. -/
def sharedForOwners : Service where
  registry := customers
  access := {
    settings := { AccessSettings.shared with changeOwnerOnly := true }
    classGrants := .ofList [⟨1, "Customer", .view⟩] }

/-- A filter of user 1. -/
def adults : SavedFilter where
  id := .ofNat 3
  target := "Customer"
  owner := 1
  created := ⟨⟨2024, 5, 17, rfl⟩, .midnight⟩
  clauses := [⟨.path "age", some "gte", "18", false⟩]

/-- A storage that has this filter only. -/
def adultsStorage : Storage where
  repository := Repository.empty.put adults
  stamps _ := ⟨adults.id, adults.created⟩

/-- A draft with another age. -/
def older : FilterDraft where
  clauses := [.keep { field := .path "age", operator? := some "gte", value := "21" }]

theorem offered_edits_are_accepted_owner :
    ∃ used, (sharedForOwners.apply ⟨1, false, false⟩ "Customer" adults.id).runWith (Fault.answer none)
        adultsStorage = (.ok used, adultsStorage) ∧
      used.canChange = true ∧ adultsStorage.repository.get? adults.id ≠ none ∧
        sharedForOwners.Accepts ⟨1, false, false⟩ adults.id older adultsStorage := by
  have happly : (sharedForOwners.apply ⟨1, false, false⟩ "Customer" adults.id).runWith (Fault.answer none)
      adultsStorage = (.ok ⟨adults, [], true, false⟩, adultsStorage) := rfl
  obtain ⟨hflag, hgone, haccepts⟩ := offered_edits_are_accepted _ _ _ _ _ _ _ _ happly
  obtain ⟨hkept, hcan, -⟩ := hflag.mp rfl
  refine ⟨_, happly, rfl, ?_, (haccepts hkept older _ rfl).mpr hcan⟩
  intro habsent
  cases (hgone rfl).mpr habsent

/-- A superuser may change the filter of another, and an update would be accepted; it is not offered. -/
theorem superuser_not_offered :
    (sharedForOwners.apply ⟨9, true, true⟩ "Customer" adults.id).run adultsStorage =
        (.ok ⟨adults, [], false, false⟩, adultsStorage) ∧
      sharedForOwners.access.can ⟨9, true, true⟩ .change (some adults) = true ∧
        sharedForOwners.Accepts ⟨9, true, true⟩ adults.id older adultsStorage :=
  ⟨rfl, rfl, _, rfl⟩

end Service

end Filterbook

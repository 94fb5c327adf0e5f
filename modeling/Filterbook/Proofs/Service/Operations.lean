import Filterbook.Service.Basic

/-!
# What one call does

Each operation of the service is a call: requests to the storage, and what to do with the replies. Run
on a storage without anything in between, it comes to one equation, from the storage before to the
result and the storage after. These equations (`create_run`, `update_run`, …) are all that later
modules use of the operations.
-/

namespace Filterbook

/-! ### Storage -/

namespace Repository

theorem get?_erase (r : Repository) (id id' : Uuid) :
    (r.erase id).get? id' = if id = id' then none else r.get? id' :=
  Roster.get?_erase r.filters id id'

theorem id_of_get? {r : Repository} {id : Uuid} {f : SavedFilter} (h : r.get? id = some f) :
    f.id = id :=
  Roster.key_of_get? h

theorem get?_of_find? {r : Repository} {q : ListQuery} {id : Uuid} {f : SavedFilter}
    (h : r.find? q id = some f) : r.get? id = some f ∧ q.admits f = true := by
  unfold find? at h
  exact Option.filter_eq_some_iff.mp h

theorem find?_of_absent {r : Repository} {q : ListQuery} {id : Uuid} (h : r.get? id = none) :
    r.find? q id = none := by
  rw [find?, h]
  rfl

/-- The repository with a filter under its identity, one that is new or one that replaces another. -/
def put (r : Repository) (f : SavedFilter) : Repository := ⟨r.filters.insert f⟩

theorem get?_put (r : Repository) (f : SavedFilter) (id : Uuid) :
    (r.put f).get? id = if f.id = id then some f else r.get? id :=
  Roster.get?_insert r.filters f id

theorem get?_put_self (r : Repository) (f : SavedFilter) : (r.put f).get? f.id = some f :=
  Roster.get?_insert_self r.filters f

theorem replace_of_get? {r : Repository} {f g : SavedFilter} (h : r.get? g.id = some f) :
    r.replace g = .ok (r.put g) := by
  have hc : r.filters.contains g.id = true := Roster.contains_iff.mpr ⟨f, h⟩
  rw [replace, if_pos hc, put]

theorem contains_of_absent {r : Repository} {id : Uuid} (h : r.get? id = none) :
    r.filters.contains id = false := by
  unfold Roster.contains
  exact Option.isSome_eq_false_iff.mpr (Option.isNone_iff_eq_none.mpr h)

theorem replace_of_absent {r : Repository} {g : SavedFilter} (h : r.get? g.id = none) :
    r.replace g = .error (.notFound filterResource) := by
  simp [replace, contains_of_absent h]

theorem add_of_absent {r : Repository} {f : SavedFilter} (h : r.get? f.id = none) :
    r.add f = .ok (r.put f) := by
  simp [add, contains_of_absent h, put]

theorem add_of_present {r : Repository} {f g : SavedFilter} (h : r.get? f.id = some g) :
    r.add f = .error (.internal ("filter " ++ f.id.text ++ " already exists")) := by
  have hc : r.filters.contains f.id = true := Roster.contains_iff.mpr ⟨g, h⟩
  rw [add, if_pos hc]

end Repository

namespace Storage

/-- The stamp that a new filter gets. -/
def nextStamp (st : Storage) : Stamp := st.stamps st.issued

/-- The storage with one more stamp used up. -/
def issue (st : Storage) : Storage := { st with issued := st.issued + 1 }

/-- A new filter is stored under the next stamp. -/
theorem insert_of_absent {st : Storage} (h : st.repository.get? st.nextStamp.id = none)
    (f : NewFilter) :
    st.insert f = (.ok st.nextStamp.id,
      st.issue.withRepository (st.repository.put (f.stamped st.nextStamp))) := by
  have hadd := Repository.add_of_absent (f := f.stamped st.nextStamp) h
  unfold nextStamp at hadd
  simp [insert, hadd, nextStamp, issue, withRepository]

/-- A stamp whose identity is taken is used up for nothing. -/
theorem insert_of_present {st : Storage} {g : SavedFilter}
    (h : st.repository.get? st.nextStamp.id = some g) (f : NewFilter) :
    st.insert f =
      (.error (.internal ("filter " ++ st.nextStamp.id.text ++ " already exists")), st.issue) := by
  have hadd := Repository.add_of_present (f := f.stamped st.nextStamp) h
  unfold nextStamp at hadd
  simp only [insert, hadd]
  rfl

theorem update_of_get? {st : Storage} {f g : SavedFilter} (h : st.repository.get? g.id = some f) :
    st.update g = (.ok (), st.withRepository (st.repository.put g)) := by
  simp [update, Repository.replace_of_get? h]

/-- A filter that is not there is not replaced. -/
theorem update_of_absent {st : Storage} {g : SavedFilter} (h : st.repository.get? g.id = none) :
    st.update g = (.error (.notFound filterResource), st) := by
  simp [update, Repository.replace_of_absent h]

/-- The storage without a filter. -/
def without (st : Storage) (id : Uuid) : Storage := st.withRepository (st.repository.erase id)

theorem get?_without (st : Storage) (id : Uuid) : (st.without id).repository.get? id = none := by
  rw [without, withRepository, Repository.get?_erase, if_pos rfl]

/-- A filter that is not there is removed without effect. -/
theorem without_of_absent {st : Storage} {id : Uuid} (h : st.repository.get? id = none) :
    st.without id = st := by
  rw [without, withRepository, Repository.erase, Roster.erase_of_absent h]

end Storage

namespace Service

variable (s : Service) (user : User) (st : Storage)

/-! ### Permission -/

theorem permitted_none (action : Action) : s.permitted user action none = .error noFilter := rfl

theorem permitted_of_can {action : Action} {f : SavedFilter}
    (h : s.access.can user action (some f) = true) : s.permitted user action (some f) = .ok f := by
  simp [permitted, h]

/-- Whoever may not do something with a filter is answered as if there were none. -/
theorem permitted_of_not_can {action : Action} {f : SavedFilter}
    (h : s.access.can user action (some f) = false) :
    s.permitted user action (some f) = .error noFilter := by
  simp [permitted, h]

theorem permitted_eq_ok {action : Action} {found? : Option SavedFilter} {f : SavedFilter}
    (h : s.permitted user action found? = .ok f) :
    found? = some f ∧ s.access.can user action (some f) = true := by
  cases found? with
  | none => cases h
  | some g =>
    cases hcan : s.access.can user action (some g) with
    | false => simp [permitted, hcan] at h
    | true =>
      rw [permitted_of_can s user hcan] at h
      cases h
      exact ⟨rfl, hcan⟩

/-! ### The operations -/

theorem create_run (target : String) (draft : FilterDraft) :
    (s.create user target draft).run st =
      match s.newFilter user target draft with
      | .error e => (.error e, st)
      | .ok f => st.insert f := by
  unfold create
  cases s.newFilter user target draft <;> rfl

theorem get_run (id : Uuid) :
    (s.get user id).run st = (s.permitted user .view (st.repository.get? id), st) := rfl

theorem check_run (action : Action) (id : Uuid) :
    (s.check user action (some id)).run st =
      ((st.repository.get? id).any fun f => s.access.can user action (some f), st) := rfl

/-- The filter that an update stores keeps its identity, so it replaces the one that was looked up. -/
theorem edited_eq_ok {f g : SavedFilter} {draft : FilterDraft} (h : s.edited f draft = .ok g) :
    ∃ clauses, s.checkedClauses f.target draft.clauses = .ok clauses ∧
      g = { f with
        name? := draft.name?, description? := draft.description?, ephemeral := draft.ephemeral,
        clauses := clauses } := by
  unfold edited at h
  split at h
  · cases h
  · next clauses hc =>
    cases h
    exact ⟨clauses, hc, rfl⟩

theorem update_run (id : Uuid) (draft : FilterDraft) :
    (s.update user id draft).run st =
      match (s.permitted user .change (st.repository.get? id)).bind (s.edited · draft) with
      | .error e => (.error e, st)
      | .ok g => (.ok g, st.withRepository (st.repository.put g)) := by
  have hrun : (s.update user id draft).run st =
      match (s.permitted user .change (st.repository.get? id)).bind (s.edited · draft) with
      | .error e => (.error e, st)
      | .ok g => ((st.update g).1.map fun _ => g, (st.update g).2) := by
    unfold update Call.run Call.runWith Storage.answer
    simp only
    cases (s.permitted user .change (st.repository.get? id)).bind (s.edited · draft) <;> rfl
  rw [hrun]
  cases hp : s.permitted user .change (st.repository.get? id) with
  | error e => rfl
  | ok f =>
    simp only [Except.bind]
    cases he : s.edited f draft with
    | error e => rfl
    | ok g =>
      -- the filter that was looked up is still there
      obtain ⟨hf, -⟩ := permitted_eq_ok s user hp
      obtain ⟨clauses, -, rfl⟩ := edited_eq_ok s he
      have hid := Repository.id_of_get? hf
      simp only
      rw [Storage.update_of_get? (f := f) (by rw [hid]; exact hf)]
      rfl

theorem delete_run (id : Uuid) :
    (s.delete user id).run st =
      match s.permitted user .delete (st.repository.get? id) with
      | .error e => (.error e, st)
      | .ok _ => (.ok (), st.without id) := by
  unfold delete Call.run Call.runWith Storage.answer
  simp only
  cases s.permitted user .delete (st.repository.get? id) <;> rfl

theorem list_run (options : ListOptions) :
    (s.list user options).run st =
      if s.access.canAdminister user then (.ok (st.repository.list (s.adminQuery user options)), st)
      else (.error (.permissionDenied Action.view.word filterResource), st) := by
  unfold list
  split <;> rfl

theorem lookups_run (target : String) :
    (s.lookups user target).run st =
      if s.access.reaches user target then
        ((st.repository.list (s.visibleQuery user target)).map (lookup user), st)
      else ([], st) := by
  unfold lookups
  split <;> rfl

theorem apply_run (target : String) (id : Uuid) :
    (s.apply user target id).run st =
      if s.access.reaches user target then
        match st.repository.find? (s.visibleQuery user target) id with
        | none => (.error (noFilterFor target), st)
        | some f =>
          match s.rowsOf target f with
          | .error e => (.error e, st)
          | .ok rows =>
            if f.ephemeral && f.isOwnedBy user.id then (.ok (s.applied user f rows true), st.without id)
            else (.ok (s.applied user f rows false), st)
      else (.error (noFilterFor target), st) := by
  unfold apply
  split
  · simp only [Call.run, Call.runWith, Storage.answer]
    cases st.repository.find? (s.visibleQuery user target) id with
    | none => rfl
    | some f =>
      simp only
      cases s.rowsOf target f with
      | error e => rfl
      | ok rows => simp only; split <;> rfl
  · rfl

end Service

end Filterbook

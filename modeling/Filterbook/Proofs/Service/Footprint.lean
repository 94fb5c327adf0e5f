import Filterbook.Proofs.Service.Reachable

/-!
# What a command touches

A command that fails leaves the stored filters as they are. One that succeeds touches a single filter,
and all others keep their content and their order: a new filter comes last, a changed one stays in its
place, a removed one leaves a gap that closes. Success is said here as an equation between the list of
filters before and the list after.

## What is proved

* `Repository.entries_put_of_absent`, `Repository.split_of_get?`: a filter put in and a filter removed,
  as equations between lists.
* `create_allOrNothing`, `update_allOrNothing`, `delete_allOrNothing`, `apply_allOrNothing`: each of the
  commands that write has written nothing when it fails, in whatever stage, and else has done all.
* `commands_touch_one_filter`: all commands together.
-/

namespace Filterbook

/-! ### Lists of filters -/

namespace Repository

variable {r : Repository} {id : Uuid} {f : SavedFilter}

/-- A new filter comes last. -/
theorem entries_put_of_absent (h : r.get? f.id = none) :
    (r.put f).filters.entries = r.filters.entries ++ [f] :=
  Roster.entries_insert_of_absent h

/-- A stored filter stands between others. Another version of it takes its place among them, and they
close up when it is removed. -/
theorem split_of_get? (h : r.get? id = some f) :
    ∃ before after, r.filters.entries = before ++ f :: after ∧ f.id = id ∧
      (∀ g : SavedFilter, g.id = id → (r.put g).filters.entries = before ++ g :: after) ∧
      (r.erase id).filters.entries = before ++ after := by
  obtain ⟨before, after, hentries, rfl, hbefore, hafter⟩ := Roster.split_of_get? h
  refine ⟨before, after, hentries, rfl, fun g hg => ?_, ?_⟩
  · exact Roster.entries_insert_of_split hentries hg.symm (by rwa [hg])
  · exact Roster.entries_erase_of_split hentries rfl hbefore hafter

end Repository

/-- The stored filters in order. -/
def Storage.filters (st : Storage) : List SavedFilter := st.repository.filters.entries

/-! ### All or nothing -/

/-- A run of a call writes nothing and fails, or it succeeds and does what `Done` says. -/
def Call.AllOrNothing {α : Type} (c : Call (Except QueryError α)) (st : Storage)
    (Done : α → Storage → Prop) : Prop :=
  match c.run st with
  | (.error _, st') => st'.repository = st.repository
  | (.ok a, st') => Done a st'

namespace Call.AllOrNothing

variable {α : Type} {c : Call (Except QueryError α)} {st : Storage} {Done : α → Storage → Prop}

theorem of_ok (h : c.AllOrNothing st Done) {a : α} (ha : (c.run st).1 = .ok a) :
    Done a (c.run st).2 := by
  rw [AllOrNothing] at h
  generalize c.run st = result at h ha
  obtain ⟨answer, st'⟩ := result
  cases ha
  exact h

theorem of_error (h : c.AllOrNothing st Done) {e : QueryError} (he : (c.run st).1 = .error e) :
    (c.run st).2.repository = st.repository := by
  rw [AllOrNothing] at h
  generalize c.run st = result at h he
  obtain ⟨answer, st'⟩ := result
  cases he
  exact h

end Call.AllOrNothing

namespace Service

variable (s : Service) (user : User) (st : Storage)

/-- A filter that is made is the draft's, under the next stamp, and comes last. -/
theorem create_allOrNothing (target : String) (draft : FilterDraft) :
    (s.create user target draft).AllOrNothing st fun id st' =>
      ∃ new, s.newFilter user target draft = .ok new ∧ st.nextStamp.id = id ∧
        st'.filters = st.filters ++ [new.stamped st.nextStamp] := by
  rw [Call.AllOrNothing, create_run]
  cases s.newFilter user target draft with
  | error e => rfl
  | ok new =>
    simp only
    cases hstamp : st.repository.get? st.nextStamp.id with
    | some g =>
      rw [Storage.insert_of_present hstamp]
      rfl
    | none =>
      rw [Storage.insert_of_absent hstamp]
      exact ⟨new, rfl, rfl, Repository.entries_put_of_absent hstamp⟩

/-- A filter that is changed stays in its place, and what is replaced is its editable part. -/
theorem update_allOrNothing (id : Uuid) (draft : FilterDraft) :
    (s.update user id draft).AllOrNothing st fun g st' =>
      ∃ before f after, st.filters = before ++ f :: after ∧ f.id = id ∧
        st'.filters = before ++ g :: after ∧
        g = { f with
          name? := draft.name?, description? := draft.description?, ephemeral := draft.ephemeral,
          clauses := g.clauses } := by
  rw [Call.AllOrNothing, update_run]
  cases hp : s.permitted user .change (st.repository.get? id) with
  | error e => rfl
  | ok f =>
    simp only [Except.bind]
    cases hg : s.edited f draft with
    | error e => rfl
    | ok g =>
      obtain ⟨hf, -⟩ := permitted_eq_ok s user hp
      obtain ⟨before, after, hentries, hid, hput, -⟩ := Repository.split_of_get? hf
      obtain ⟨clauses, -, rfl⟩ := edited_eq_ok s hg
      exact ⟨before, f, after, hentries, hid, hput _ hid, rfl⟩

/-- A filter that is deleted is gone, and the others close up. -/
theorem delete_allOrNothing (id : Uuid) :
    (s.delete user id).AllOrNothing st fun _ st' =>
      st'.repository.get? id = none ∧
        ∃ before f after, st.filters = before ++ f :: after ∧ f.id = id ∧
          st'.filters = before ++ after := by
  rw [Call.AllOrNothing, delete_run]
  cases hp : s.permitted user .delete (st.repository.get? id) with
  | error e => rfl
  | ok f =>
    obtain ⟨hf, -⟩ := permitted_eq_ok s user hp
    obtain ⟨before, after, hentries, hid, -, herase⟩ := Repository.split_of_get? hf
    exact ⟨st.get?_without id, before, f, after, hentries, hid, herase⟩

/-- A filter that was applied is gone if it is ephemeral and the user's own, and stays otherwise. -/
theorem apply_allOrNothing (target : String) (id : Uuid) :
    (s.apply user target id).AllOrNothing st fun a st' =>
      ∃ before after, st.filters = before ++ a.filter :: after ∧ a.filter.id = id ∧
        st'.filters =
          if a.filter.ephemeral && a.filter.isOwnedBy user.id then before ++ after
          else before ++ a.filter :: after := by
  rw [Call.AllOrNothing, apply_run]
  cases s.access.reaches user target with
  | false => rfl
  | true =>
    simp only [if_true]
    cases hfind : st.repository.find? (s.visibleQuery user target) id with
    | none => rfl
    | some f =>
      simp only
      cases s.rowsOf target f with
      | error e => rfl
      | ok rows =>
        obtain ⟨hf, -⟩ := Repository.get?_of_find? hfind
        obtain ⟨before, after, hentries, hid, -, herase⟩ := Repository.split_of_get? hf
        cases hd : f.ephemeral && f.isOwnedBy user.id with
        | true =>
          refine ⟨before, after, hentries, hid, ?_⟩
          simp only [applied, hd, if_true]
          exact herase
        | false =>
          refine ⟨before, after, hentries, hid, ?_⟩
          simp only [applied, hd, Bool.false_eq_true, if_false]
          exact hentries

end Service

/-! ### Commands -/

/-- The error of an answer that is one. -/
def error? {α : Type} : Except QueryError α → Option QueryError
  | .error e => some e
  | .ok _ => none

theorem eq_error_of_error? {α : Type} {answer : Except QueryError α} {e : QueryError}
    (h : error? answer = some e) : answer = .error e := by
  cases answer with
  | ok a => cases h
  | error e' =>
    cases h
    rfl

/-- The error of a command that failed. -/
def Command.failure? : (c : Command) → c.Answer → Option QueryError
  | .create .., answer => error? answer
  | .update .., answer => error? answer
  | .delete .., answer => error? answer
  | .get .., answer => error? answer
  | .check .., _ => none
  | .list .., answer => error? answer
  | .lookups .., _ => none
  | .apply .., answer => error? answer

/-- A command that only looks at stored filters. -/
def Command.isInquiry : Command → Bool
  | .get .. | .check .. | .list .. | .lookups .. => true
  | .create .. | .update .. | .delete .. | .apply .. => false

namespace Session

/-- The storage after a command. -/
def after (w : Session) (c : Command) : Storage := (w.step (.command c)).storage

variable {w : Session} {c : Command}

/-- An inquiry leaves the storage as it is. -/
theorem after_of_isInquiry (h : c.isInquiry = true) : w.after c = w.storage := by
  have heffect : w.service.Effect w.storage c (w.after c) := w.service.effect c w.storage
  generalize w.after c = st' at heffect
  cases heffect with
  | kept => rfl
  | wasted | added | replaced | deleted | discarded => cases h

/-- A command that fails leaves the filters as they are. -/
theorem repository_of_failure {e : QueryError} (h : c.failure? (w.answer c) = some e) :
    (w.after c).repository = w.storage.repository := by
  cases c with
  | create user target draft =>
    exact (w.service.create_allOrNothing user w.storage target draft).of_error (eq_error_of_error? h)
  | update user id draft =>
    exact (w.service.update_allOrNothing user w.storage id draft).of_error (eq_error_of_error? h)
  | delete user id =>
    exact (w.service.delete_allOrNothing user w.storage id).of_error (eq_error_of_error? h)
  | apply user target id =>
    exact (w.service.apply_allOrNothing user w.storage target id).of_error (eq_error_of_error? h)
  | get | check | list | lookups => rw [after_of_isInquiry rfl]

/-- **A command touches at most one filter**: one that fails leaves all filters as they are; a success
of making a filter puts the draft's at the end; of changing one, replaces its editable part in its
place; of deleting one, takes it out; and of applying one, takes it out exactly when it is ephemeral
and the user's own. Inquiries leave the storage as it is, and the data of an editing form come without
a request. -/
theorem commands_touch_one_filter (w : Session) :
    (∀ c e, c.failure? (w.answer c) = some e →
        (w.after c).repository = w.storage.repository) ∧
      (∀ user target draft id, w.answer (.create user target draft) = .ok id →
        ∃ new, w.service.newFilter user target draft = .ok new ∧ w.storage.nextStamp.id = id ∧
          (w.after (.create user target draft)).filters =
            w.storage.filters ++ [new.stamped w.storage.nextStamp]) ∧
      (∀ user id draft g, w.answer (.update user id draft) = .ok g →
        ∃ before f after, w.storage.filters = before ++ f :: after ∧ f.id = id ∧
          (w.after (.update user id draft)).filters = before ++ g :: after ∧
          g = { f with
            name? := draft.name?, description? := draft.description?,
            ephemeral := draft.ephemeral, clauses := g.clauses }) ∧
      (∀ user id, w.answer (.delete user id) = .ok () →
        (w.after (.delete user id)).repository.get? id = none ∧
          ∃ before f after, w.storage.filters = before ++ f :: after ∧ f.id = id ∧
            (w.after (.delete user id)).filters = before ++ after) ∧
      (∀ user target id a, w.answer (.apply user target id) = .ok a →
        ∃ before after, w.storage.filters = before ++ a.filter :: after ∧ a.filter.id = id ∧
          (w.after (.apply user target id)).filters =
            if a.filter.ephemeral && a.filter.isOwnedBy user.id then before ++ after
            else before ++ a.filter :: after) ∧
      (∀ c, c.isInquiry = true → w.after c = w.storage) ∧
      ∀ target, (Call.done (w.service.fieldData target)).run w.storage =
        (w.service.fieldData target, w.storage) := by
  refine ⟨fun c e => repository_of_failure, ?_, ?_, ?_, ?_, fun c => after_of_isInquiry,
    fun target => rfl⟩
  · intro user target draft id h
    exact (w.service.create_allOrNothing user w.storage target draft).of_ok h
  · intro user id draft g h
    exact (w.service.update_allOrNothing user w.storage id draft).of_ok h
  · intro user id h
    exact (w.service.delete_allOrNothing user w.storage id).of_ok h
  · intro user target id a h
    exact (w.service.apply_allOrNothing user w.storage target id).of_ok h

/-- A superuser has made two filters, the first of them for one use. -/
def twoFilters : Session :=
  (start customerService countedStamps).run
    [.command (.create ⟨1, true, false⟩ "Customer" { clauses := decorated, ephemeral := true }),
      .command (.create ⟨1, true, false⟩ "Customer" { clauses := decorated })]

/-- The first is taken out by its use, and a stranger's attempt to delete it is without effect. -/
theorem commands_touch_one_filter_discarded :
    (∃ a before after, twoFilters.answer (.apply ⟨1, true, false⟩ "Customer" (Uuid.ofNat 0)) = .ok a ∧
        twoFilters.storage.filters = before ++ a.filter :: after ∧ (before ++ after).length = 1 ∧
        (twoFilters.after (.apply ⟨1, true, false⟩ "Customer" (Uuid.ofNat 0))).filters =
          before ++ after) ∧
      Command.failure? (.delete ⟨2, false, false⟩ (Uuid.ofNat 0))
          (twoFilters.answer (.delete ⟨2, false, false⟩ (Uuid.ofNat 0))) = some Service.noFilter ∧
        (twoFilters.after (.delete ⟨2, false, false⟩ (Uuid.ofNat 0))).repository =
          twoFilters.storage.repository := by
  obtain ⟨hfailure, -, -, -, happly, -, -⟩ := commands_touch_one_filter twoFilters
  obtain ⟨a, ha, hown⟩ : ∃ a,
      twoFilters.answer (.apply ⟨1, true, false⟩ "Customer" (Uuid.ofNat 0)) = .ok a ∧
        (a.filter.ephemeral && a.filter.isOwnedBy 1) = true := ⟨_, rfl, rfl⟩
  obtain ⟨before, after, hfilters, -, hafter⟩ := happly _ _ _ _ ha
  rw [hown, if_pos rfl] at hafter
  have hlength : (before ++ a.filter :: after).length = 2 := by
    rw [← hfilters]
    rfl
  refine ⟨⟨a, before, after, ha, hfilters, ?_, hafter⟩, rfl, hfailure _ _ rfl⟩
  rw [List.length_append, List.length_cons] at hlength
  rw [List.length_append]
  omega

end Session

end Filterbook

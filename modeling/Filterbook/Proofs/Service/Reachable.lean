import Filterbook.Proofs.Clause.Stored
import Filterbook.Proofs.Service.Session
import Mathlib.Data.List.Induction

/-!
# What every session keeps

Whatever commands are run, by whoever and with whatever grants, the stored filters stay in order: each
is for a registered model, and its clauses are the stored form of clauses that pass validation. So a
filter that was stored once can be applied ever after, as far as its clauses are concerned; and what
was fixed when it was made, its identity, owner, target and time of creation, never changes.

## What is proved

* `stored?_step`: where a stored filter comes from in one step. It was there before, perhaps with another
  editable part, or it is made by this very step.
* `good_run`: the stored filters of every run are in order, and their identities were issued.
* `created_of_stored?` and `sameOrigin_of_stored?`: every stored filter was made by its owner, and all
  versions of it have the same origin.
* `rowsOf_error`: the application of a filter in order fails only in the store of records.
* `filters_stay_in_order`: all of this together, for every run.

The second and third need identities that do not repeat (`Storage.Fresh`).
-/

namespace Filterbook

/-! ### Filters in order -/

/-- Two versions of a filter: what is fixed when it is made is the same. -/
structure SavedFilter.SameOrigin (f g : SavedFilter) : Prop where
  /-- The identity is the same. -/
  id_eq : f.id = g.id
  /-- The owner is the same. -/
  owner_eq : f.owner = g.owner
  /-- The model is the same. -/
  target_eq : f.target = g.target
  /-- The time of creation is the same. -/
  created_eq : f.created = g.created

namespace SavedFilter.SameOrigin

variable {f g h : SavedFilter}

theorem refl (f : SavedFilter) : f.SameOrigin f := ⟨rfl, rfl, rfl, rfl⟩

theorem symm (hfg : f.SameOrigin g) : g.SameOrigin f :=
  ⟨hfg.id_eq.symm, hfg.owner_eq.symm, hfg.target_eq.symm, hfg.created_eq.symm⟩

theorem trans (hfg : f.SameOrigin g) (hgh : g.SameOrigin h) : f.SameOrigin h :=
  ⟨hfg.id_eq.trans hgh.id_eq, hfg.owner_eq.trans hgh.owner_eq, hfg.target_eq.trans hgh.target_eq,
    hfg.created_eq.trans hgh.created_eq⟩

end SavedFilter.SameOrigin

/-- Clauses in the form in which they are stored, that pass validation for a registered model. -/
structure InOrder (r : Registry) (catalog : Catalog) (target : String) (clauses : List Clause) :
    Prop where
  /-- The model is registered. -/
  registered : r.contains target = true
  /-- The clauses pass, and they are the stored form of what they pass as. -/
  stored : ∃ checked, validateStored r target catalog clauses = .ok checked ∧
    checked.map Checked.toClause = clauses

theorem inOrder_of_checkedClauses {s : Service} {target : String} {requests : List ClauseRequest}
    {clauses : List Clause} (h : s.checkedClauses target requests = .ok clauses) :
    InOrder s.registry s.catalog target clauses := by
  unfold Service.checkedClauses at h
  split at h
  · cases h
  · next checked hc =>
    cases h
    exact ⟨contains_of_validateClauses hc, checked, validateStored_toClause hc, rfl⟩

/-- The application of a filter in order fails only in the store of records. -/
theorem rowsOf_error {s : Service} {target : String} {f : SavedFilter} {e : QueryError}
    (hf : InOrder s.registry s.catalog f.target f.clauses) (h : s.rowsOf target f = .error e) :
    e.code = .storeError := by
  obtain ⟨checked, hchecked, -⟩ := hf.stored
  have hcompile := SavedFilter.compile_of_validateStored hf.registered hchecked
  rw [Service.rowsOf, hcompile] at h
  simp only [Except.bind, Records.select] at h
  split at h
  · cases h
    rfl
  · cases h

/-! ### New filters -/

theorem newFilter_eq_ok {s : Service} {user : User} {target : String} {draft : FilterDraft}
    {f : NewFilter} (h : s.newFilter user target draft = .ok f) :
    f.target = target ∧ f.owner = user.id ∧
      s.checkedClauses target draft.clauses = .ok f.clauses := by
  unfold Service.newFilter at h
  split at h
  · cases h
  · split at h
    · cases h
    · split at h
      · cases h
      · next hc =>
        cases h
        exact ⟨rfl, rfl, hc⟩

namespace Session

/-! ### Where a stored filter comes from -/

/-- A user's submission makes a filter at this moment. -/
structure Makes (w : Session) (user : User) (draft : FilterDraft) (f : SavedFilter) : Prop where
  /-- The filter is the user's. -/
  owner_eq : f.owner = user.id
  /-- Its identity and its time of creation are those of the next stamp. -/
  stamp_eq : ⟨f.id, f.created⟩ = w.storage.nextStamp
  /-- Its clauses are the stored form of the submission. -/
  checked : w.service.checkedClauses f.target draft.clauses = .ok f.clauses
  /-- The user is told its identity. -/
  answered : w.answer (.create user f.target draft) = .ok f.id
  /-- It is stored. -/
  stored : (w.step (.command (.create user f.target draft))).stored? f.id = some f
  /-- The stamp is used up. -/
  issued_eq :
    (w.step (.command (.create user f.target draft))).storage.issued = w.storage.issued + 1

theorem makes_of_newFilter {w : Session} {user : User} {target : String} {draft : FilterDraft}
    {new : NewFilter} (hnew : w.service.newFilter user target draft = .ok new)
    (habsent : w.storage.repository.get? w.storage.nextStamp.id = none) :
    w.Makes user draft (new.stamped w.storage.nextStamp) := by
  obtain ⟨rfl, howner, hchecked⟩ := newFilter_eq_ok hnew
  have hrun : (w.service.call (.create user new.target draft)).run w.storage =
      (.ok w.storage.nextStamp.id, w.storage.issue.withRepository
        (w.storage.repository.put (new.stamped w.storage.nextStamp))) := by
    rw [Service.call, Service.create_run, hnew]
    exact Storage.insert_of_absent habsent new
  obtain ⟨hanswer, hstep⟩ := command_of_run hrun
  refine ⟨howner, rfl, hchecked, hanswer, ?_, ?_⟩
  · change (w.step (.command (.create user new.target draft))).stored? _ = _
    rw [hstep]
    exact Repository.get?_put_self w.storage.repository (new.stamped w.storage.nextStamp)
  · change (w.step (.command (.create user new.target draft))).storage.issued = _
    rw [hstep]
    rfl

/-- `g` is the filter `f`, perhaps with its editable part replaced by what a submission makes of it. -/
def Edits (s : Service) (f g : SavedFilter) : Prop :=
  g.SameOrigin f ∧
    (g.clauses = f.clauses ∨ ∃ requests, s.checkedClauses f.target requests = .ok g.clauses)

/-- **Where a stored filter comes from**: it was stored before, perhaps with another editable part, or
it is made by this very step. -/
theorem stored?_step {w : Session} {e : Event} {id : Uuid} {f : SavedFilter}
    (h : (w.step e).stored? id = some f) :
    (∃ g, w.stored? id = some g ∧ Edits w.service g f) ∨
      ∃ user draft, e = .command (.create user f.target draft) ∧ f.id = id ∧ w.Makes user draft f := by
  obtain ⟨-, -, ⟨c, rfl, heffect⟩ | hsame⟩ := step_cases w e
  · unfold stored? at h ⊢
    generalize (w.step (.command c)).storage = st' at h heffect
    cases heffect with
    | kept | wasted => exact .inl ⟨f, h, .refl f, .inl rfl⟩
    | @added user target draft new hnew habsent =>
      change (w.storage.repository.put (new.stamped w.storage.nextStamp)).get? id = some f at h
      rw [Repository.get?_put] at h
      split at h
      · next hid =>
        cases h
        obtain ⟨rfl, -, -⟩ := newFilter_eq_ok hnew
        exact .inr ⟨user, draft, rfl, hid, makes_of_newFilter hnew habsent⟩
      · exact .inl ⟨f, h, .refl f, .inl rfl⟩
    | @replaced user id' draft f₀ g hf₀ hcan hg =>
      change (w.storage.repository.put g).get? id = some f at h
      rw [Repository.get?_put] at h
      split at h
      · next hid =>
        cases h
        obtain ⟨clauses, hclauses, rfl⟩ := Service.edited_eq_ok w.service hg
        have hid' : f₀.id = id' := Repository.id_of_get? hf₀
        refine .inl ⟨f₀, ?_, ⟨rfl, rfl, rfl, rfl⟩, .inr ⟨draft.clauses, hclauses⟩⟩
        rw [← hid, hid']
        exact hf₀
      · exact .inl ⟨f, h, .refl f, .inl rfl⟩
    | deleted | discarded =>
      change (w.storage.repository.erase _).get? id = some f at h
      rw [Repository.get?_erase] at h
      split at h
      · cases h
      · exact .inl ⟨f, h, .refl f, .inl rfl⟩
  · refine .inl ⟨f, ?_, .refl f, .inl rfl⟩
    unfold stored? at h ⊢
    rwa [hsame] at h

/-! ### What every moment of a run has in common -/

/-- The stored filters are in order for a service, and their identities were issued. -/
structure Good (s : Service) (w : Session) : Prop where
  /-- The registry is that of the service. -/
  registry_eq : w.service.registry = s.registry
  /-- The catalog is that of the service. -/
  catalog_eq : w.service.catalog = s.catalog
  /-- Every stored filter is in order. -/
  inOrder : ∀ {id f}, w.stored? id = some f → InOrder s.registry s.catalog f.target f.clauses
  /-- Every stored filter has an identity that was issued. -/
  issued : ∀ {id f}, w.stored? id = some f → w.storage.Issued id

theorem good_start (s : Service) (stamps : Nat → Stamp) : Good s (start s stamps) where
  registry_eq := rfl
  catalog_eq := rfl
  inOrder h := by cases h
  issued h := by cases h

/-- The identity of a filter that is made was issued for it. -/
theorem issued_of_makes {w : Session} {user : User} {draft : FilterDraft} {f : SavedFilter}
    (h : w.Makes user draft f) :
    (w.step (.command (.create user f.target draft))).storage.Issued f.id := by
  refine ⟨w.storage.issued, ?_, ?_⟩
  · rw [h.issued_eq]
    exact Nat.lt_succ_self _
  · rw [(later_step w _).stamps_eq]
    exact (congrArg Stamp.id h.stamp_eq).symm

theorem good_step {s : Service} {w : Session} (h : Good s w) (e : Event) : Good s (w.step e) := by
  obtain ⟨hregistry, hcatalog, -⟩ := step_cases w e
  have hchecked : ∀ {target requests clauses},
      w.service.checkedClauses target requests = .ok clauses →
        InOrder s.registry s.catalog target clauses := by
    intro target requests clauses hc
    rw [← h.registry_eq, ← h.catalog_eq]
    exact inOrder_of_checkedClauses hc
  refine ⟨hregistry.trans h.registry_eq, hcatalog.trans h.catalog_eq, ?_, ?_⟩
  · intro id f hf
    rcases stored?_step hf with ⟨g, hg, horigin, hclauses⟩ | ⟨user, draft, -, -, hmakes⟩
    · rw [horigin.target_eq]
      rcases hclauses with hsame | ⟨requests, hc⟩
      · rw [hsame]
        exact h.inOrder hg
      · exact hchecked hc
    · exact hchecked hmakes.checked
  · intro id f hf
    rcases stored?_step hf with ⟨g, hg, -⟩ | ⟨user, draft, rfl, rfl, hmakes⟩
    · exact (later_step w e).issued (h.issued hg)
    · exact issued_of_makes hmakes

theorem good_run {s : Service} {w : Session} (h : Good s w) (events : List Event) :
    Good s (w.run events) := by
  induction events generalizing w with
  | nil => exact h
  | cons e events ih => exact ih (good_step h e)

/-! ### Origins -/

/-- A filter was made in the course of events: a submission made it, as `g`, and what was fixed then is
as it was. -/
def Created (w : Session) (events : List Event) (f : SavedFilter) : Prop :=
  ∃ before user draft after g,
    events = before ++ .command (.create user g.target draft) :: after ∧
      (w.run before).Makes user draft g ∧ f.SameOrigin g

/-- What was made stays made, whatever comes after and whatever is edited. -/
theorem Created.concat {w : Session} {events : List Event} {f f' : SavedFilter}
    (h : Created w events f) (hf : f'.SameOrigin f) (e : Event) : Created w (events ++ [e]) f' := by
  obtain ⟨before, user, draft, after, g, rfl, hmakes, horigin⟩ := h
  exact ⟨before, user, draft, after ++ [e], g, by simp, hmakes, hf.trans horigin⟩

/-- Every stored filter was made. -/
theorem created_of_stored? {s : Service} {stamps : Nat → Stamp} {events : List Event} {id : Uuid}
    {f : SavedFilter} (h : ((start s stamps).run events).stored? id = some f) :
    Created (start s stamps) events f := by
  induction events using List.reverseRecOn generalizing f with
  | nil => cases h
  | append_singleton events e ih =>
    rw [run_concat] at h
    rcases stored?_step h with ⟨g, hg, horigin, -⟩ | ⟨user, draft, rfl, -, hmakes⟩
    · exact (ih hg).concat horigin e
    · exact ⟨events, user, draft, [], f, rfl, hmakes, .refl f⟩

/-- Where identities do not repeat, a filter that is made has one that was never issued before. -/
theorem not_issued_of_makes {w : Session} {user : User} {draft : FilterDraft} {f : SavedFilter}
    (h : w.Makes user draft f)
    (hfresh : (w.step (.command (.create user f.target draft))).storage.Fresh) :
    ¬ w.storage.Issued f.id := by
  rintro ⟨n, hn, hid⟩
  have hlast : w.storage.issued <
      (w.step (.command (.create user f.target draft))).storage.issued := by
    rw [h.issued_eq]
    exact Nat.lt_succ_self _
  have hne := hfresh w.storage.issued hlast n hn
  rw [(later_step w _).stamps_eq] at hne
  exact hne (hid.trans (congrArg Stamp.id h.stamp_eq))

/-- Where identities do not repeat, all that is ever stored under one of them has the same origin. -/
theorem sameOrigin_of_stored? {s : Service} {stamps : Nat → Stamp} {before after : List Event}
    (hfresh : ((start s stamps).run (before ++ after)).storage.Fresh) {id : Uuid} {f g : SavedFilter}
    (hg : ((start s stamps).run before).stored? id = some g)
    (hf : ((start s stamps).run (before ++ after)).stored? id = some f) : f.SameOrigin g := by
  induction after using List.reverseRecOn generalizing f with
  | nil =>
    rw [List.append_nil, hg] at hf
    cases hf
    exact .refl g
  | append_singleton after e ih =>
    rw [← List.append_assoc, run_concat] at hf hfresh
    rcases stored?_step hf with ⟨f₀, hf₀, horigin, -⟩ | ⟨user, draft, rfl, rfl, hmakes⟩
    · exact horigin.trans (ih ((later_step _ e).fresh hfresh) hf₀)
    · -- the identity was issued when `g` was stored, so it is not the next one
      have hissued := (good_run (good_start s stamps) before).issued hg
      have hlater := later_run ((start s stamps).run before) after
      rw [← run_append] at hlater
      exact absurd (hlater.issued hissued) (not_issued_of_makes hmakes hfresh)

/-! ### Every run -/

/-- Where the stored filters are in order, an application fails only because there is no such filter for
the user, or because the store of records fails. -/
theorem code_of_apply_error {s : Service} {w : Session} (hgood : Good s w) {user : User}
    {target : String} {id : Uuid} {e : QueryError}
    (h : w.answer (.apply user target id) = .error e) :
    e.code = .recordNotFound ∨ e.code = .storeError := by
  unfold answer at h
  rw [Service.call, Service.apply_run] at h
  split at h
  · split at h
    · cases h
      exact .inl rfl
    · next f hf =>
      obtain ⟨hget, -⟩ := Repository.get?_of_find? hf
      have hinOrder := hgood.inOrder hget
      rw [← hgood.registry_eq, ← hgood.catalog_eq] at hinOrder
      split at h
      · next hrows =>
        cases h
        exact .inr (rowsOf_error hinOrder hrows)
      · split at h <;> cases h
  · cases h
    exact .inl rfl

/-- **Stored filters stay in order**: after any commands of any users, with grants given and withdrawn
and records added between them, every stored filter has the identity under which it is stored, is for
a registered model and has clauses in stored form that pass validation; it was made by its owner's
submission; and every version that was ever stored under its identity has its owner, its target and
its time of creation. So no application fails for its clauses or its model. -/
theorem filters_stay_in_order (s : Service) (stamps : Nat → Stamp) (events : List Event)
    (hfresh : ((start s stamps).run events).storage.Fresh) :
    (∀ id f, ((start s stamps).run events).stored? id = some f →
        f.id = id ∧ InOrder s.registry s.catalog f.target f.clauses ∧
          Created (start s stamps) events f ∧
          ∀ before after g, events = before ++ after →
            ((start s stamps).run before).stored? id = some g → f.SameOrigin g) ∧
      ∀ user target id e, ((start s stamps).run events).answer (.apply user target id) = .error e →
        e.code ≠ .invalidFilter ∧ e.code ≠ .unknownContentType := by
  have hgood : Good s ((start s stamps).run events) := good_run (good_start s stamps) events
  constructor
  · intro id f hf
    refine ⟨Repository.id_of_get? hf, hgood.inOrder hf, created_of_stored? hf, ?_⟩
    rintro before after g rfl hg
    exact sameOrigin_of_stored? hfresh hg hf
  · intro user target id e he
    rcases code_of_apply_error hgood he with hcode | hcode <;> rw [hcode] <;> decide

/-- A service over customers where filters may be shared. -/
def customerService : Service := { registry := customers, access := { settings := .shared } }

/-- Identities counted up, all at one time. -/
def countedStamps (n : Nat) : Stamp := ⟨Uuid.ofNat n, ⟨⟨2023, 12, 31, rfl⟩, .midnight⟩⟩

/-- A superuser makes a filter, and a user who is granted the change edits it. -/
def editedByAnother : List Event :=
  [.command (.create ⟨1, true, false⟩ "Customer" { clauses := decorated }),
    .grant ⟨2, "Customer", .view⟩, .grant ⟨2, filterResource, .change⟩,
    .command (.update ⟨2, false, false⟩ (Uuid.ofNat 0)
      { name? := some "Adults",
        clauses := [.keep { field := .path "age", operator? := some "gte", value := "18" }] })]

theorem filters_stay_in_order_edited :
    ((start customerService countedStamps).run editedByAnother).storage.Fresh ∧
      ∃ f, ((start customerService countedStamps).run editedByAnother).stored? (Uuid.ofNat 0) =
          some f ∧
        f.name? = some "Adults" ∧ InOrder customers .standard f.target f.clauses ∧
          Created (start customerService countedStamps) editedByAnother f := by
  have hfresh : ((start customerService countedStamps).run editedByAnother).storage.Fresh := by
    decide
  obtain ⟨f, hf, hname⟩ : ∃ f,
      ((start customerService countedStamps).run editedByAnother).stored? (Uuid.ofNat 0) = some f ∧
        f.name? = some "Adults" := ⟨_, rfl, rfl⟩
  obtain ⟨-, hinOrder, hcreated, -⟩ :=
    (filters_stay_in_order customerService countedStamps editedByAnother hfresh).1 _ f hf
  exact ⟨hfresh, f, hf, hname, hinOrder, hcreated⟩

end Session

end Filterbook

import Filterbook.Proofs.Service.Operations

/-!
# Sessions

A service at work: commands of any users come one after another, and between them grants are given and
withdrawn and records are added. A command is run with the grants of its moment. A session starts with
no filters, and a run of it is a list of events.

What a command may do to the storage is said once (`Service.effect`), as one of six cases; what a whole
run keeps is shown from these cases by induction on the events.
-/

namespace Filterbook

/-! ### Stamps -/

namespace Storage

/-- No identity is issued twice. -/
def Fresh (st : Storage) : Prop := ∀ n < st.issued, ∀ m < n, (st.stamps m).id ≠ (st.stamps n).id

instance (st : Storage) : Decidable st.Fresh :=
  inferInstanceAs (Decidable (∀ n < st.issued, ∀ m < n, (st.stamps m).id ≠ (st.stamps n).id))

/-- An identity was issued. -/
def Issued (st : Storage) (id : Uuid) : Prop := ∃ n < st.issued, (st.stamps n).id = id

/-- A storage that goes on from another: it has the same stamps and has used up as many or more. -/
structure Later (st st' : Storage) : Prop where
  /-- The stamps are the same. -/
  stamps_eq : st'.stamps = st.stamps
  /-- No stamp is given back. -/
  issued_le : st.issued ≤ st'.issued

namespace Later

variable {st st' st'' : Storage}

theorem refl (st : Storage) : st.Later st := ⟨rfl, Nat.le_refl _⟩

theorem trans (h : st.Later st') (h' : st'.Later st'') : st.Later st'' :=
  ⟨h'.stamps_eq.trans h.stamps_eq, Nat.le_trans h.issued_le h'.issued_le⟩

theorem fresh (h : st.Later st') (hfresh : st'.Fresh) : st.Fresh := by
  intro n hn m hm
  rw [← h.stamps_eq]
  exact hfresh n (Nat.lt_of_lt_of_le hn h.issued_le) m hm

theorem issued (h : st.Later st') {id : Uuid} (hid : st.Issued id) : st'.Issued id := by
  obtain ⟨n, hn, rfl⟩ := hid
  exact ⟨n, Nat.lt_of_lt_of_le hn h.issued_le, by rw [h.stamps_eq]⟩

end Later

end Storage

/-! ### Commands -/

/-- What a user asks of a service. -/
inductive Command where
  /-- Make a filter for a model. -/
  | create (user : User) (target : String) (draft : FilterDraft)
  /-- Replace the editable part of a filter. -/
  | update (user : User) (id : Uuid) (draft : FilterDraft)
  /-- Delete a filter. -/
  | delete (user : User) (id : Uuid)
  /-- Look a filter up. -/
  | get (user : User) (id : Uuid)
  /-- Ask whether something may be done. -/
  | check (user : User) (action : Action) (id? : Option Uuid)
  /-- List filters for the administration. -/
  | list (user : User) (options : ListOptions)
  /-- Show the menu of filters for a model. -/
  | lookups (user : User) (target : String)
  /-- Apply a filter to the records of a model. -/
  | apply (user : User) (target : String) (id : Uuid)

/-- What a command is answered with. -/
abbrev Command.Answer : Command → Type
  | create .. => Except QueryError Uuid
  | update .. => Except QueryError SavedFilter
  | delete .. => Except QueryError Unit
  | get .. => Except QueryError SavedFilter
  | check .. => Bool
  | list .. => Except QueryError (List SavedFilter)
  | lookups .. => List FilterLookup
  | apply .. => Except QueryError AppliedFilter

namespace Service

/-- The call that a command makes. -/
def call (s : Service) : (c : Command) → Call c.Answer
  | .create user target draft => s.create user target draft
  | .update user id draft => s.update user id draft
  | .delete user id => s.delete user id
  | .get user id => s.get user id
  | .check user action id? => s.check user action id?
  | .list user options => s.list user options
  | .lookups user target => s.lookups user target
  | .apply user target id => s.apply user target id

/-- What a command may do to the storage. -/
inductive Effect (s : Service) (st : Storage) : Command → Storage → Prop where
  /-- The storage stays as it is. -/
  | kept {c : Command} : Effect s st c st
  /-- The identity of the next stamp is taken, and the stamp is used up for nothing. -/
  | wasted {user : User} {target : String} {draft : FilterDraft} :
      Effect s st (.create user target draft) st.issue
  /-- A new filter is stored. -/
  | added {user : User} {target : String} {draft : FilterDraft} {f : NewFilter}
      (hnew : s.newFilter user target draft = .ok f)
      (habsent : st.repository.get? st.nextStamp.id = none) :
      Effect s st (.create user target draft)
        (st.issue.withRepository (st.repository.put (f.stamped st.nextStamp)))
  /-- A filter that the user may change is replaced by what the draft makes of it. -/
  | replaced {user : User} {id : Uuid} {draft : FilterDraft} {f g : SavedFilter}
      (hf : st.repository.get? id = some f) (hcan : s.access.can user .change (some f) = true)
      (hg : s.edited f draft = .ok g) :
      Effect s st (.update user id draft) (st.withRepository (st.repository.put g))
  /-- A filter that the user may delete is removed. -/
  | deleted {user : User} {id : Uuid} {f : SavedFilter} (hf : st.repository.get? id = some f)
      (hcan : s.access.can user .delete (some f) = true) :
      Effect s st (.delete user id) (st.without id)
  /-- An ephemeral filter is removed after its owner applied it. -/
  | discarded {user : User} {target : String} {id : Uuid} {f : SavedFilter}
      (hf : st.repository.find? (s.visibleQuery user target) id = some f)
      (heph : f.ephemeral = true) (howned : f.isOwnedBy user.id = true) :
      Effect s st (.apply user target id) (st.without id)

/-- **What a command does to the storage**: one of the six cases. -/
theorem effect (s : Service) (c : Command) (st : Storage) : Effect s st c ((s.call c).run st).2 := by
  cases c with
  | create user target draft =>
    rw [call, create_run]
    cases hnew : s.newFilter user target draft with
    | error e => exact .kept
    | ok f =>
      simp only
      cases hstamp : st.repository.get? st.nextStamp.id with
      | none =>
        rw [Storage.insert_of_absent hstamp]
        exact .added hnew hstamp
      | some g =>
        rw [Storage.insert_of_present hstamp]
        exact .wasted
  | update user id draft =>
    rw [call, update_run]
    cases hp : s.permitted user .change (st.repository.get? id) with
    | error e => exact .kept
    | ok f =>
      obtain ⟨hf, hcan⟩ := permitted_eq_ok s user hp
      simp only [Except.bind]
      cases hg : s.edited f draft with
      | error e => exact .kept
      | ok g => exact .replaced hf hcan hg
  | delete user id =>
    rw [call, delete_run]
    cases hp : s.permitted user .delete (st.repository.get? id) with
    | error e => exact .kept
    | ok f =>
      obtain ⟨hf, hcan⟩ := permitted_eq_ok s user hp
      exact .deleted hf hcan
  | get user id => exact .kept
  | check user action id? => cases id? <;> exact .kept
  | list user options =>
    rw [call, list_run]
    split <;> exact .kept
  | lookups user target =>
    rw [call, lookups_run]
    split <;> exact .kept
  | apply user target id =>
    rw [call, apply_run]
    split
    · cases hf : st.repository.find? (s.visibleQuery user target) id with
      | none => exact .kept
      | some f =>
        simp only
        cases s.rowsOf target f with
        | error e => exact .kept
        | ok rows =>
          simp only
          split
          · next hd =>
            rw [Bool.and_eq_true] at hd
            exact .discarded hf hd.1 hd.2
          · exact .kept
    · exact .kept

/-- No command gives a stamp back. -/
theorem Effect.later {s : Service} {st st' : Storage} {c : Command} (h : Effect s st c st') :
    st.Later st' := by
  cases h with
  | kept | replaced | deleted | discarded => exact ⟨rfl, Nat.le_refl _⟩
  | wasted | added => exact ⟨rfl, Nat.le_succ _⟩

end Service

/-! ### Runs -/

/-- What happens in a session. -/
inductive Event where
  /-- A command is run. -/
  | command (c : Command)
  /-- An action is granted on everything of a kind. -/
  | grant (g : ClassGrant)
  /-- Such a grant is withdrawn. -/
  | revoke (g : ClassGrant)
  /-- An action is granted on one filter. -/
  | grantOn (g : FilterGrant)
  /-- Such a grant is withdrawn. -/
  | revokeOn (g : FilterGrant)
  /-- Records of a model are added. -/
  | record (model : String) (rows : List Json)

/-- A service and its storage. -/
structure Session where
  /-- The service, with the grants and records of the moment. -/
  service : Service
  /-- The storage. -/
  storage : Storage

namespace Session

/-- A session in which nothing has happened: no filters are stored, and no stamp is used up. -/
def start (s : Service) (stamps : Nat → Stamp) : Session := ⟨s, { stamps := stamps }⟩

/-- The filter stored under an identity. -/
def stored? (w : Session) (id : Uuid) : Option SavedFilter := w.storage.repository.get? id

/-- What a command would be answered with at this moment. -/
def answer (w : Session) (c : Command) : c.Answer := ((w.service.call c).run w.storage).1

/-- The session with other grants. -/
def withAccess (w : Session) (a : Access) : Session := { w with service := { w.service with access := a } }

/-- One event. -/
def step (w : Session) : Event → Session
  | .command c => { w with storage := ((w.service.call c).run w.storage).2 }
  | .grant g => w.withAccess (w.service.access.grant g)
  | .revoke g => w.withAccess (w.service.access.revoke g)
  | .grantOn g => w.withAccess (w.service.access.grantOn g)
  | .revokeOn g => w.withAccess (w.service.access.revokeOn g)
  | .record model rows =>
    { w with service := { w.service with records := w.service.records.extend model rows } }

/-- The events one after another. -/
def run (w : Session) (events : List Event) : Session := events.foldl step w

theorem run_concat (w : Session) (events : List Event) (e : Event) :
    w.run (events ++ [e]) = (w.run events).step e := by
  simp [run]

theorem run_append (w : Session) (before after : List Event) :
    w.run (before ++ after) = (w.run before).run after := by
  simp [run]

/-- The answer to a command and the session after it are what the call gives. -/
theorem command_of_run {w : Session} {c : Command} {a : c.Answer} {st : Storage}
    (h : (w.service.call c).run w.storage = (a, st)) :
    w.answer c = a ∧ w.step (.command c) = { w with storage := st } := by
  simp [answer, step, h]

/-- Events other than commands leave the storage, and all events leave registry and catalog. -/
theorem step_cases (w : Session) (e : Event) :
    (w.step e).service.registry = w.service.registry ∧
      (w.step e).service.catalog = w.service.catalog ∧
      ((∃ c, e = .command c ∧ w.service.Effect w.storage c (w.step e).storage) ∨
        (w.step e).storage = w.storage) := by
  cases e with
  | command c => exact ⟨rfl, rfl, .inl ⟨c, rfl, w.service.effect c w.storage⟩⟩
  | grant | revoke | grantOn | revokeOn | record => exact ⟨rfl, rfl, .inr rfl⟩

theorem later_step (w : Session) (e : Event) : w.storage.Later (w.step e).storage := by
  obtain ⟨-, -, ⟨c, -, heffect⟩ | hsame⟩ := step_cases w e
  · exact heffect.later
  · rw [hsame]
    exact .refl _

theorem later_run (w : Session) (events : List Event) :
    w.storage.Later (w.run events).storage := by
  induction events generalizing w with
  | nil => exact .refl _
  | cons e events ih => exact (later_step w e).trans (ih (w.step e))

end Session

end Filterbook

import Filterbook.Proofs.Service.Interleaving

/-!
# What a call keeps in mind

A call on the storage makes two requests at most: it inserts, or it looks, and then it may change or
remove what it found. What it puts into the second request was settled by the answer to the first, and
any number of requests by others may have come since.

## What is proved

* `Task.Stage.serve`, `Task.Stage.length_le_two`: one request takes a call from one stage to the next,
  and there are two requests at most.
* `Task.Stage.of_update`, `Task.Stage.of_delete`: what a call was told before it goes to write or to
  remove a filter.
* `Traffic.coherent_run`: in every run each call is at the stage that the answers to it have led to.
-/

namespace Filterbook

/-- A request that changes or removes a stored filter. -/
def Request.amends : Request → Bool
  | .update _ | .delete _ => true
  | .insert _ | .get _ | .find .. | .list _ => false

/-- No call begins with such a request. -/
theorem Service.amends_of_call {s : Service} {c : Command} {q : Request}
    {next : q.Reply → Call c.Answer} (h : s.call c = .request q next) : q.amends = false := by
  cases c with
  | create user target draft =>
    simp only [call, create] at h
    split at h
    · cases h
    · cases h
      rfl
  | update | delete | get =>
    cases h
    rfl
  | check user action id? =>
    cases id? with
    | none => cases h
    | some id =>
      cases h
      rfl
  | list user options =>
    simp only [call, list] at h
    split at h
    · cases h
      rfl
    · cases h
  | lookups user target =>
    simp only [call, lookups] at h
    split at h
    · cases h
      rfl
    · cases h
  | apply user target id =>
    simp only [call, apply] at h
    split at h
    · cases h
      rfl
    · cases h

/-- What an update goes to write is what the draft makes of the filter that was looked up. -/
theorem Service.edited_of_bind {s : Service} {user : User} {draft : FilterDraft}
    {found? : Option SavedFilter} {g : SavedFilter}
    (h : (s.permitted user .change found?).bind (s.edited · draft) = .ok g) :
    ∃ f, found? = some f ∧ s.edited f draft = .ok g := by
  cases hp : s.permitted user .change found? with
  | error e =>
    rw [hp] at h
    cases h
  | ok f =>
    rw [hp] at h
    exact ⟨f, (permitted_eq_ok s user hp).1, h⟩

namespace Task

/-- How far task `n` has come, and the requests of it that were answered: what it goes on with is made
from what the first of them met. -/
inductive Stage (n : Nat) : List Exchange → Task → Prop where
  /-- It was started, and nothing was answered. -/
  | begun {s : Service} {c : Command} : Stage n [] (.ofCommand s c)
  /-- It goes to write what a draft makes of the filter that was looked up. -/
  | writing {s : Service} {st : Storage} {user : User} {id : Uuid} {draft : FilterDraft}
      {f g : SavedFilter} (hf : st.repository.get? id = some f) (hg : s.edited f draft = .ok g) :
      Stage n [⟨n, .get id, st⟩]
        ⟨.update user id draft, .request (.update g) fun reply => .done (reply.map fun _ => g)⟩
  /-- It goes to delete the filter that was looked up. -/
  | deleting {st : Storage} {user : User} {id : Uuid} :
      Stage n [⟨n, .get id, st⟩]
        ⟨.delete user id, .request (.delete id) fun reply => .done (reply.map fun _ => ())⟩
  /-- It goes to delete the ephemeral filter that its owner applied. -/
  | discarding {s : Service} {st : Storage} {user : User} {target : String} {id : Uuid}
      {f : SavedFilter} {rows : List Json}
      (hf : st.repository.find? (s.visibleQuery user target) id = some f)
      (heph : f.ephemeral = true) (howned : f.isOwnedBy user.id = true) :
      Stage n [⟨n, .find (s.visibleQuery user target) id, st⟩]
        ⟨.apply user target id, .request (.delete id) fun _ => .done (.ok (s.applied user f rows true))⟩
  /-- It has its result after one request. -/
  | answered {e : Exchange} {c : Command} {a : c.Answer} : Stage n [e] ⟨c, .done a⟩
  /-- It has its result after two requests. -/
  | settled {e e' : Exchange} {c : Command} {a : c.Answer} : Stage n [e, e'] ⟨c, .done a⟩

namespace Stage

variable {n : Nat} {own : List Exchange} {t t' : Task} {st : Storage} {q : Request}

/-- **One request** takes a call to its next stage; it keeps in mind what the first request met. -/
theorem serve (h : Stage n own t) (hserve : t.serve? st = some (q, t')) :
    Stage n (own ++ [⟨n, q, st⟩]) t' := by
  cases h with
  | @begun s c =>
    obtain ⟨next, hcall, rfl⟩ := serve?_eq_some hserve
    change s.call c = .request q next at hcall
    change Stage n [⟨n, q, st⟩] ⟨c, next (st.answer q).1⟩
    cases c with
    | create user target draft =>
      simp only [Service.call, Service.create] at hcall
      split at hcall
      · cases hcall
      · cases hcall
        exact .answered
    | update user id draft =>
      cases hcall
      simp only [Storage.answer]
      split
      · exact .answered
      · next g hg =>
        obtain ⟨f, hf, hg⟩ := Service.edited_of_bind hg
        exact .writing hf hg
    | delete user id =>
      cases hcall
      simp only
      split
      · exact .answered
      · exact .deleting
    | get user id =>
      cases hcall
      exact .answered
    | check user action id? =>
      cases id? with
      | none => cases hcall
      | some id =>
        cases hcall
        exact .answered
    | list user options =>
      simp only [Service.call, Service.list] at hcall
      split at hcall
      · cases hcall
        exact .answered
      · cases hcall
    | lookups user target =>
      simp only [Service.call, Service.lookups] at hcall
      split at hcall
      · cases hcall
        exact .answered
      · cases hcall
    | apply user target id =>
      simp only [Service.call, Service.apply] at hcall
      split at hcall
      · cases hcall
        simp only [Storage.answer]
        split
        · exact .answered
        · next f hf =>
          split
          · exact .answered
          · split
            · next hd =>
              rw [Bool.and_eq_true] at hd
              exact .discarding hf hd.1 hd.2
            · exact .answered
      · cases hcall
  | writing | deleting | discarding =>
    cases hserve
    exact .settled
  | answered | settled => cases hserve

theorem length_le_two (h : Stage n own t) : own.length ≤ 2 := by
  cases h with
  | begun | writing | deleting | discarding | answered | settled => simp

/-- A task that goes on has neither changed nor removed a filter. -/
theorem amends_of_serve? (h : Stage n own t) (hserve : t.serve? st = some (q, t')) {e : Exchange}
    (he : e ∈ own) : e.request.amends = false := by
  cases h with
  | begun => cases he
  | writing | deleting | discarding =>
    cases List.mem_singleton.mp he
    rfl
  | answered | settled => cases hserve

/-- A task that has made no request is as it was started. -/
theorem of_nil (h : Stage n [] t) : ∃ s c, t = .ofCommand s c := by
  cases h with
  | begun => exact ⟨_, _, rfl⟩

/-- A version that is written is what a draft makes of a copy, and a write that comes too late is told
so. -/
theorem of_update {g : SavedFilter} (h : Stage n own t) (hserve : t.serve? st = some (.update g, t')) :
    ∃ s st₀ user id draft f, own = [⟨n, .get id, st₀⟩] ∧ st₀.repository.get? id = some f ∧
      Service.edited s f draft = .ok g ∧
      t' = ⟨.update user id draft, .done ((st.update g).1.map fun _ => g)⟩ := by
  cases h with
  | @begun s c =>
    obtain ⟨next, hcall, -⟩ := serve?_eq_some hserve
    cases Service.amends_of_call hcall
  | writing hf hg =>
    cases hserve
    exact ⟨_, _, _, _, _, _, rfl, hf, hg, rfl⟩
  | deleting | discarding | answered | settled => cases hserve

/-- A filter is removed because a command says so, or because it was ephemeral when its owner looked it
up to apply it. -/
theorem of_delete {id : Uuid} (h : Stage n own t) (hserve : t.serve? st = some (.delete id, t')) :
    (∃ user, t.command = .delete user id) ∨
      ∃ s st₀ user target f, t.command = .apply user target id ∧
        own = [⟨n, .find (Service.visibleQuery s user target) id, st₀⟩] ∧
        st₀.repository.find? (Service.visibleQuery s user target) id = some f ∧
        f.ephemeral = true ∧ f.isOwnedBy user.id = true := by
  cases h with
  | @begun s c =>
    obtain ⟨next, hcall, -⟩ := serve?_eq_some hserve
    cases Service.amends_of_call hcall
  | deleting =>
    cases hserve
    exact .inl ⟨_, rfl⟩
  | discarding hf heph howned =>
    cases hserve
    exact .inr ⟨_, _, _, _, _, rfl, rfl, hf, heph, howned⟩
  | writing | answered | settled => cases hserve

end Stage

end Task

namespace Traffic

variable {w w' : Traffic} {move : Move}

/-- Each task is at the stage that its exchanges have brought it to. -/
def Coherent (w : Traffic) : Prop := w.Traced Task.Stage

/-- **What every run keeps**: each task is at the stage that its exchanges have brought it to. -/
theorem Step.coherent (hstep : Step w move w') (h : w.Coherent) : w'.Coherent :=
  hstep.traced (fun _ _ _ _ => .begun) (fun _ _ _ _ _ hstage hserve => hstage.serve hserve) h

theorem coherent_run (st : Storage) (moves : List Move) : (run ⟨st, [], []⟩ moves).Coherent :=
  run_induction moves (fun _ => Step.coherent) (traced_start _ st)

/-- No call makes more than two requests. -/
theorem length_exchangesOf_le {st : Storage} {moves : List Move} {n : Nat} {t : Task}
    (ht : (run ⟨st, [], []⟩ moves).tasks[n]? = some t) :
    ((run ⟨st, [], []⟩ moves).exchangesOf n).length ≤ 2 :=
  ((coherent_run st moves).each n t ht).length_le_two

end Traffic

end Filterbook

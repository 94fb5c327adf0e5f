import Filterbook.Proofs.Service.Reachable
import Filterbook.Proofs.Service.Stages

/-!
# When a filter is discarded

An application decides to discard a filter when it looks the filter up, and acts on it later. The last
write wins: nothing is compared in between. So a filter that was made to be kept can still go by an
application that had seen it ephemeral, and only by such a one.

## What is proved

* `Traffic.warranted_run`: every deletion is ordered by a command, or it follows a lookup, by the same
  application, that met an ephemeral filter of the user's own.
* `Chained.between`: from one request to a later one, the log is a chain.
* `Traffic.kept_filters_go_by_earlier_lookups`: a filter that is not ephemeral when it goes was deleted
  by a command, or it was written after the application that discards it had looked.
-/

namespace Filterbook

/-- A lookup by an application that met an ephemeral filter of the user's own. -/
def Exchange.FindsEphemeral (e : Exchange) (user : User) (target : String) (id : Uuid) : Prop :=
  ∃ (s : Service) (f : SavedFilter), e.request = .find (s.visibleQuery user target) id ∧
    e.storage.repository.get? id = some f ∧ f.ephemeral = true ∧ f.isOwnedBy user.id = true

/-! ### Warrants -/

/-- What warrants the deletion of a filter by task `n`: its command, or what its lookup met. -/
inductive Warrant (n : Nat) (id : Uuid) : List Exchange → Command → Prop where
  /-- The command says so. -/
  | ordered {own : List Exchange} {user : User} : Warrant n id own (.delete user id)
  /-- The filter was ephemeral when its owner looked it up to apply it. -/
  | found {e : Exchange} {st : Storage} {user : User} {target : String} (htask : e.task = n)
      (hfinds : e.FindsEphemeral user target id) :
      Warrant n id [e, ⟨n, .delete id, st⟩] (.apply user target id)

/-- A task at its stage, with a warrant for what it deleted. -/
structure Warranted (n : Nat) (own : List Exchange) (t : Task) : Prop where
  /-- The stage. -/
  stage : t.Stage n own
  /-- The warrant. -/
  warrant : ∀ e ∈ own, ∀ id, e.request = .delete id → Warrant n id own t.command

/-- **A deletion is warranted** when it is asked for. -/
theorem Warranted.serve {n : Nat} {own : List Exchange} {t t' : Task} {st : Storage} {q : Request}
    (h : Warranted n own t) (hserve : t.serve? st = some (q, t')) :
    Warranted n (own ++ [⟨n, q, st⟩]) t' := by
  refine ⟨h.stage.serve hserve, fun e he id hdelete => ?_⟩
  rw [Task.command_of_serve? hserve]
  obtain he | he := List.mem_append.mp he
  · -- a task that goes on has not deleted anything
    have hamends := h.stage.amends_of_serve? hserve he
    rw [hdelete] at hamends
    cases hamends
  · cases List.mem_singleton.mp he
    cases hdelete
    obtain ⟨user, hc⟩ | ⟨s, st₀, user, target, f, hc, rfl, hf, heph, howned⟩ := h.stage.of_delete hserve
    · rw [hc]
      exact .ordered
    · rw [hc]
      exact .found rfl ⟨s, f, rfl, (Repository.get?_of_find? hf).1, heph, howned⟩

/-- A version is stored once its update was told so. -/
theorem Storage.get?_of_update {st : Storage} {g : SavedFilter} (h : (st.update g).1 = .ok ()) :
    (st.update g).2.repository.get? g.id = some g := by
  cases hstored : st.repository.get? g.id with
  | none =>
    rw [update_of_absent hstored] at h
    cases h
  | some f =>
    rw [update_of_get? hstored]
    exact Repository.get?_put_self st.repository g

/-- The log from one request to a later one is a chain. -/
theorem Chained.between {st st' : Storage} {early mid rest : List Exchange} {e e' : Exchange}
    (h : Chained st (early ++ e :: (mid ++ e' :: rest)) st') : Chained e.after mid e'.storage := by
  obtain ⟨_, -, -, h⟩ := Chained.append_iff.mp h
  obtain ⟨_, hmid, rfl, -⟩ := Chained.append_iff.mp h
  exact hmid

namespace Traffic

/-- The command of task `n`. -/
def commandOf (w : Traffic) (n : Nat) : Option Command := w.tasks[n]?.map Task.command

/-- **What every run keeps**: all deletions are warranted. -/
theorem warranted_run (st : Storage) (moves : List Move) :
    (run ⟨st, [], []⟩ moves).Traced Warranted :=
  run_induction moves
    (fun _ hstep h => hstep.traced (fun _ _ _ _ => ⟨.begun, fun _ he => (List.not_mem_nil he).elim⟩)
      (fun _ _ _ _ _ hw hserve => hw.serve hserve) h)
    (traced_start _ st)

theorem chained_run (st : Storage) (moves : List Move) :
    Chained st (run ⟨st, [], []⟩ moves).log (run ⟨st, [], []⟩ moves).storage := by
  obtain ⟨es, hlog, hchain⟩ := log_run ⟨st, [], []⟩ moves
  rw [List.nil_append] at hlog
  rwa [hlog]

variable {w : Traffic} {past rest : List Exchange} {e : Exchange} {id : Uuid}

/-- A deletion in the log is ordered by a command, or the application that asks for it looked before. -/
theorem lookup_of_delete (hw : w.Traced Warranted) (hlog : w.log = past ++ e :: rest)
    (hdelete : e.request = .delete id) :
    (∃ user, w.commandOf e.task = some (.delete user id)) ∨
      ∃ user target, w.commandOf e.task = some (.apply user target id) ∧
        ∃ e₀ ∈ past, e₀.task = e.task ∧ e₀.FindsEphemeral user target id := by
  have hmem : e ∈ w.log := by simp [hlog]
  obtain ⟨⟨c, call⟩, ht⟩ : ∃ t, w.tasks[e.task]? = some t :=
    ⟨_, List.getElem?_eq_getElem (hw.numbered e hmem)⟩
  have hcommand : w.commandOf e.task = some c := by rw [commandOf, ht, Option.map_some]
  have hown : w.exchangesOf e.task =
      past.filter (·.task = e.task) ++ e :: rest.filter (·.task = e.task) := by
    rw [exchangesOf, hlog, List.filter_append, List.filter_cons_of_pos (by simp)]
  have hwarrant : Warrant e.task id (w.exchangesOf e.task) c :=
    (hw.each _ _ ht).warrant e (by simp [hown]) id hdelete
  rw [hown] at hwarrant
  rw [hcommand]
  generalize hpast : past.filter (·.task = e.task) = before at hwarrant
  generalize hexchanges : before ++ e :: rest.filter (·.task = e.task) = own at hwarrant
  cases hwarrant with
  | ordered => exact .inl ⟨_, rfl⟩
  | @found e₀ st user target htask hfinds =>
    refine .inr ⟨user, target, rfl, e₀, ?_, htask, hfinds⟩
    cases before with
    | nil =>
      -- the deletion itself is no lookup
      obtain ⟨rfl, -⟩ := List.cons.inj hexchanges
      obtain ⟨s, f, hfind, -⟩ := hfinds
      cases hdelete.symm.trans hfind
    | cons x xs =>
      obtain ⟨rfl, -⟩ := List.cons.inj hexchanges
      exact (List.mem_filter.mp (hpast ▸ List.mem_cons_self)).1

/-- A lookup leaves the storage as it is. -/
theorem after_of_findsEphemeral {user : User} {target : String} (h : e.FindsEphemeral user target id) :
    e.after = e.storage := by
  obtain ⟨s, f, hfind, -⟩ := h
  rw [Exchange.after, hfind]
  rfl

/-- **Kept filters go by command or by earlier lookups.** A filter that is not ephemeral when it goes
was deleted by a command, or by an application that had looked before the version that goes was written,
and had found the filter ephemeral. So once an update was told that a version to be kept is stored, every
application that discards the filter had looked before, unless a version for one use was written
since. -/
theorem kept_filters_go_by_earlier_lookups (st : Storage) (moves : List Move) :
    (∀ past e rest f, (run ⟨st, [], []⟩ moves).log = past ++ e :: rest →
        e.removed? = some f → f.ephemeral = false →
        (∃ user, (run ⟨st, [], []⟩ moves).commandOf e.task = some (.delete user f.id)) ∨
          ∃ user target,
            (run ⟨st, [], []⟩ moves).commandOf e.task = some (.apply user target f.id) ∧
            ∃ early e₀ mid, past = early ++ e₀ :: mid ∧ e₀.task = e.task ∧
              e₀.FindsEphemeral user target f.id ∧ ∃ e₁ ∈ mid, e₁.storage.Writes e₁.request f) ∧
      ∀ past e₁ mid e rest g,
        (run ⟨st, [], []⟩ moves).log = past ++ e₁ :: (mid ++ e :: rest) → e₁.request = .update g →
        (e₁.storage.update g).1 = .ok () → g.ephemeral = false →
        (∀ e' ∈ mid, ∀ f, e'.storage.Writes e'.request f → f.id = g.id → f.ephemeral = false) →
        e.request = .delete g.id →
        (∃ user, (run ⟨st, [], []⟩ moves).commandOf e.task = some (.delete user g.id)) ∨
          ∃ user target,
            (run ⟨st, [], []⟩ moves).commandOf e.task = some (.apply user target g.id) ∧
            ∃ e₀ ∈ past, e₀.task = e.task ∧ e₀.FindsEphemeral user target g.id := by
  have hwarranted := warranted_run st moves
  have hchain := chained_run st moves
  refine ⟨fun past e rest f hlog hremoved hkept => ?_,
    fun past e₁ mid e rest g hlog hupdate hanswer hkept hmid hdelete => ?_⟩
  · obtain ⟨hdelete, hf⟩ := e.delete_of_removed? hremoved
    refine (lookup_of_delete hwarranted hlog hdelete).imp_right ?_
    rintro ⟨user, target, hcommand, e₀, he₀, htask, hfinds⟩
    obtain ⟨early, mid, rfl⟩ := List.append_of_mem he₀
    refine ⟨user, target, hcommand, early, e₀, mid, rfl, htask, hfinds, ?_⟩
    rw [hlog, List.append_assoc, List.cons_append] at hchain
    obtain hstored | ⟨e₁, he₁, -, hwrites⟩ := hchain.between.stored hf
    · -- what the lookup met was ephemeral
      rw [after_of_findsEphemeral hfinds] at hstored
      obtain ⟨s, f₀, -, hf₀, heph, -⟩ := hfinds
      rw [hstored] at hf₀
      cases hf₀
      rw [hkept] at heph
      cases heph
    · exact ⟨e₁, he₁, hwrites⟩
  · have hlog' : (run ⟨st, [], []⟩ moves).log = (past ++ e₁ :: mid) ++ e :: rest := by simp [hlog]
    refine (lookup_of_delete hwarranted hlog' hdelete).imp_right ?_
    rintro ⟨user, target, hcommand, e₀, he₀, htask, hfinds⟩
    refine ⟨user, target, hcommand, e₀, ?_, htask, hfinds⟩
    obtain ⟨s, f₀, hfind, hf₀, heph, -⟩ := hfinds
    obtain he₀ | he₀ := List.mem_append.mp he₀
    · exact he₀
    exfalso
    obtain rfl | he₀ := List.mem_cons.mp he₀
    · cases hupdate.symm.trans hfind
    -- the lookup met the version that the update wrote, or one that was written since
    obtain ⟨mid, mid', rfl⟩ := List.append_of_mem he₀
    rw [hlog, List.append_assoc, List.cons_append] at hchain
    have hephemeral : f₀.ephemeral = false := by
      obtain hstored | ⟨e', he', hid, hwrites⟩ := hchain.between.stored hf₀
      · rw [Exchange.after, hupdate] at hstored
        cases (Storage.get?_of_update hanswer).symm.trans hstored
        exact hkept
      · exact hmid e' (List.mem_append_left _ he') f₀ hwrites hid
    rw [heph] at hephemeral
    cases hephemeral

/-- A filter for one use is made, an application looks it up, and an update makes it one to be kept. -/
def keptMeanwhile : List Move :=
  [.start Session.customerService
      (.create ⟨1, true, false⟩ "Customer" { clauses := decorated, ephemeral := true }),
    .advance 0, .start Session.customerService (.apply ⟨1, true, false⟩ "Customer" (.ofNat 0)),
    .start Session.customerService (.update ⟨1, true, false⟩ (.ofNat 0) { clauses := decorated }),
    .advance 1, .advance 2, .advance 2]

/-- The update was told that the filter is kept, and the application goes on and takes it away. -/
theorem kept_filter_discarded :
    ∃ e f,
      (run ⟨{ stamps := Session.countedStamps }, [], []⟩ keptMeanwhile).tasks[2]? =
        some ⟨.update ⟨1, true, false⟩ (.ofNat 0) { clauses := decorated }, .done (.ok f)⟩ ∧
      f.ephemeral = false ∧
      (run ⟨{ stamps := Session.countedStamps }, [], []⟩ (keptMeanwhile ++ [.advance 1])).log =
        (run ⟨{ stamps := Session.countedStamps }, [], []⟩ keptMeanwhile).log ++ [e] ∧
      e.removed? = some f ∧
      (run ⟨{ stamps := Session.countedStamps }, [], []⟩ (keptMeanwhile ++ [.advance 1])).commandOf
        e.task = some (.apply ⟨1, true, false⟩ "Customer" f.id) :=
  ⟨_, _, rfl, rfl, rfl, rfl, rfl⟩

theorem kept_filters_go_by_earlier_lookups_discarded :
    ∃ past e f,
      (run ⟨{ stamps := Session.countedStamps }, [], []⟩ (keptMeanwhile ++ [.advance 1])).log =
        past ++ e :: [] ∧
      e.removed? = some f ∧ f.ephemeral = false ∧
      ∃ e₀ ∈ past, e₀.FindsEphemeral ⟨1, true, false⟩ "Customer" f.id ∧
        ∃ e₁ ∈ past, e₁.storage.Writes e₁.request f := by
  obtain ⟨e, f, hlog, hremoved, hkept, hcommand⟩ : ∃ e f,
      (run ⟨{ stamps := Session.countedStamps }, [], []⟩ (keptMeanwhile ++ [.advance 1])).log =
        (run ⟨{ stamps := Session.countedStamps }, [], []⟩ keptMeanwhile).log ++ [e] ∧
      e.removed? = some f ∧ f.ephemeral = false ∧
      (run ⟨{ stamps := Session.countedStamps }, [], []⟩ (keptMeanwhile ++ [.advance 1])).commandOf
        e.task = some (.apply ⟨1, true, false⟩ "Customer" f.id) := ⟨_, _, rfl, rfl, rfl, rfl⟩
  refine ⟨_, e, f, hlog, hremoved, hkept, ?_⟩
  obtain ⟨user, hdelete⟩ | ⟨user, target, happly, early, e₀, mid, hpast, -, hfinds, e₁, he₁, hwrites⟩ :=
    (kept_filters_go_by_earlier_lookups _ _).1 _ e [] f hlog hremoved hkept
  · cases hcommand.symm.trans hdelete
  · cases hcommand.symm.trans happly
    rw [hpast]
    exact ⟨e₀, by simp, hfinds, e₁, by simp [he₁], hwrites⟩

end Traffic

end Filterbook

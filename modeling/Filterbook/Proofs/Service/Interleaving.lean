import Filterbook.Proofs.Service.Session

/-!
# Calls in any order

Several calls under way on one storage. A request is answered at once, and between the requests of one
call those of others may come; so a run is any list of moves, each of which starts a call or lets one
make its next request. Every call is made with a service of its own, the grants and records of its
moment. The storage keeps a log of the requests that it answered, with what they met.

## What is proved

* `Traffic.step_cases`: what one move does, as one of three cases.
* `Traffic.run_alone`: a call that nobody disturbs does what `Call.run` says, so runs of one call after
  another are among the runs here.
* `Traffic.exists_completion`: all calls can be brought to an end.
* `Storage.stored_of_answer` and `Chained.stored`: a version that is stored was stored before or was
  written since.
* `Traffic.Step.traced`: what holds of every task that is started, with what was answered to it, and is
  kept by every request, holds of all tasks.
-/

namespace Filterbook

/-! ### Tasks -/

/-- A call under way. -/
structure Task where
  /-- The command that it is made for. -/
  command : Command
  /-- What it does from now on. -/
  call : Call command.Answer

namespace Task

/-- The task of a command. -/
def ofCommand (s : Service) (c : Command) : Task := ⟨c, s.call c⟩

/-- The request that a task makes, and the task once a storage has answered it. -/
def serve? (t : Task) (st : Storage) : Option (Request × Task) :=
  match t.call with
  | .done _ => none
  | .request q next => some (q, ⟨t.command, next (st.answer q).1⟩)

/-- A task that has its result. -/
def Ended (t : Task) : Prop := ∃ a, t.call = .done a

theorem serve?_of_ended {t : Task} (h : t.Ended) (st : Storage) : t.serve? st = none := by
  obtain ⟨a, ha⟩ := h
  rw [serve?, ha]

theorem ended_of_serve? {t : Task} {st : Storage} (h : t.serve? st = none) : t.Ended := by
  obtain ⟨c, call⟩ := t
  cases call with
  | done a => exact ⟨a, rfl⟩
  | request q next => cases h

theorem serve?_eq_some {t t' : Task} {st : Storage} {q : Request} (h : t.serve? st = some (q, t')) :
    ∃ next, t.call = .request q next ∧ t' = ⟨t.command, next (st.answer q).1⟩ := by
  obtain ⟨c, call⟩ := t
  cases call with
  | done a => cases h
  | request q next =>
    cases h
    exact ⟨next, rfl, rfl⟩

theorem command_of_serve? {t t' : Task} {st : Storage} {q : Request}
    (h : t.serve? st = some (q, t')) : t'.command = t.command := by
  obtain ⟨next, -, rfl⟩ := serve?_eq_some h
  rfl

end Task

/-! ### Runs -/

/-- A request of a task that was answered. -/
structure Exchange where
  /-- The number of the task. -/
  task : Nat
  /-- The request. -/
  request : Request
  /-- The storage that it met. -/
  storage : Storage

/-- The storage after an answer. -/
def Exchange.after (e : Exchange) : Storage := (e.storage.answer e.request).2

/-- The filter that a request removed, if it removed one. The reply says whether it did. -/
def Exchange.removed? (e : Exchange) : Option SavedFilter :=
  match e.request with
  | .delete id => e.storage.repository.get? id
  | _ => none

theorem Exchange.delete_of_removed? {e : Exchange} {f : SavedFilter} (h : e.removed? = some f) :
    e.request = .delete f.id ∧ e.storage.repository.get? f.id = some f := by
  unfold removed? at h
  split at h
  · next id hrequest =>
    cases Repository.id_of_get? h
    exact ⟨hrequest, h⟩
  · cases h

/-- A storage with calls under way. -/
structure Traffic where
  /-- The storage. -/
  storage : Storage
  /-- The calls, numbered from zero in the order in which they were started. -/
  tasks : List Task := []
  /-- The requests that were answered, in order. -/
  log : List Exchange := []

/-- What happens next. -/
inductive Move where
  /-- A command is given to a service. -/
  | start (s : Service) (c : Command)
  /-- A task makes its next request. -/
  | advance (n : Nat)

namespace Traffic

/-- The traffic with one more task. -/
def add (w : Traffic) (t : Task) : Traffic := { w with tasks := w.tasks ++ [t] }

/-- The traffic after a request of task `n`, which goes on as `t`. -/
def serve (w : Traffic) (n : Nat) (q : Request) (t : Task) : Traffic where
  storage := (w.storage.answer q).2
  tasks := w.tasks.set n t
  log := w.log ++ [⟨n, q, w.storage⟩]

/-- One move. A task that has ended makes none. -/
def step (w : Traffic) : Move → Traffic
  | .start s c => w.add (.ofCommand s c)
  | .advance n =>
    match w.tasks[n]?.bind (·.serve? w.storage) with
    | none => w
    | some (q, t) => w.serve n q t

/-- The moves one after another. -/
def run (w : Traffic) (moves : List Move) : Traffic := moves.foldl step w

/-- The requests of a task that were answered. -/
def exchangesOf (w : Traffic) (n : Nat) : List Exchange := w.log.filter (·.task = n)

/-- All tasks have ended. -/
def Ended (w : Traffic) : Prop := ∀ (n : Nat) (t : Task), w.tasks[n]? = some t → t.Ended

/-- What a move may do. -/
inductive Step (w : Traffic) : Move → Traffic → Prop where
  /-- There is nothing to do for the task. -/
  | idle {n : Nat} (hend : ∀ t, w.tasks[n]? = some t → t.Ended) : Step w (.advance n) w
  /-- A task is added. -/
  | started {s : Service} {c : Command} : Step w (.start s c) (w.add (.ofCommand s c))
  /-- A request of a task is answered. -/
  | served {n : Nat} {t t' : Task} {q : Request} (ht : w.tasks[n]? = some t)
      (hserve : t.serve? w.storage = some (q, t')) : Step w (.advance n) (w.serve n q t')

/-- **What a move does**: one of the three cases. -/
theorem step_cases (w : Traffic) (m : Move) : Step w m (w.step m) := by
  cases m with
  | start s c => exact .started
  | advance n =>
    rw [step]
    cases ht : w.tasks[n]? with
    | none => exact .idle fun t h => by rw [ht] at h; cases h
    | some t =>
      rw [Option.bind_some]
      cases hserve : t.serve? w.storage with
      | none =>
        refine .idle fun t' h => ?_
        rw [ht] at h
        cases h
        exact Task.ended_of_serve? hserve
      | some served => exact .served ht hserve

theorem run_append (w : Traffic) (before after : List Move) :
    w.run (before ++ after) = (w.run before).run after := by
  simp [run]

/-- What every move keeps, every run keeps. -/
theorem run_induction {P : Traffic → Prop} (moves : List Move)
    (hstep : ∀ {w m w'}, m ∈ moves → Step w m w' → P w → P w') {w : Traffic} (h : P w) :
    P (w.run moves) := by
  induction moves generalizing w with
  | nil => exact h
  | cons m moves ih =>
    exact ih (fun hm => hstep (List.mem_cons_of_mem _ hm))
      (hstep List.mem_cons_self (step_cases w m) h)

/-! ### What a move leaves -/

variable {w w' : Traffic} {n m : Nat} {move : Move} {t t' : Task} {q : Request}

theorem tasks_add (h : (w.add t).tasks[n]? = some t') :
    w.tasks[n]? = some t' ∨ n = w.tasks.length ∧ t' = t := by
  rw [add, List.getElem?_append] at h
  split at h
  · exact .inl h
  · next hn =>
    rw [List.getElem?_singleton] at h
    split at h
    · next h0 =>
      cases h
      exact .inr ⟨by omega, rfl⟩
    · cases h

/-- A request of a task changes no other task. -/
theorem tasks_serve (h : n < w.tasks.length) :
    (w.serve n q t).tasks[m]? = if n = m then some t else w.tasks[m]? := by
  by_cases hm : n = m
  · subst hm
    simp [serve, h]
  · simp [serve, hm]

theorem exchangesOf_serve :
    (w.serve n q t).exchangesOf m =
      if n = m then w.exchangesOf m ++ [⟨n, q, w.storage⟩] else w.exchangesOf m := by
  by_cases hm : n = m <;> simp [exchangesOf, serve, List.filter_append, hm]

theorem lt_length (h : w.tasks[n]? = some t) : n < w.tasks.length :=
  (List.getElem?_eq_some_iff.mp h).1

/-- A task that has ended stays as it is. -/
theorem Step.tasks_of_ended (hstep : Step w move w') (h : w.tasks[n]? = some t) (hend : t.Ended) :
    w'.tasks[n]? = some t := by
  cases hstep with
  | idle => exact h
  | started => rwa [add, List.getElem?_append_left (lt_length h)]
  | @served k u u' q hu hserve =>
    rw [tasks_serve (lt_length hu)]
    split
    · next hk =>
      -- the task that is served has not ended
      rw [hk, h] at hu
      cases hu
      rw [Task.serve?_of_ended hend] at hserve
      cases hserve
    · exact h

theorem tasks_run_of_ended (h : w.tasks[n]? = some t) (hend : t.Ended) (moves : List Move) :
    (w.run moves).tasks[n]? = some t :=
  run_induction (P := fun w => w.tasks[n]? = some t) moves
    (fun _ hstep h => hstep.tasks_of_ended h hend) h

/-! ### Calls that run to the end -/

/-- **A call that nobody disturbs** does what its run on the storage says. -/
theorem run_alone {c : Command} {call : Call c.Answer} (h : w.tasks[n]? = some ⟨c, call⟩) :
    ∃ k, (w.run (List.replicate k (.advance n))).storage = (call.run w.storage).2 ∧
      (w.run (List.replicate k (.advance n))).tasks[n]? =
        some ⟨c, .done (call.run w.storage).1⟩ := by
  induction call generalizing w with
  | done a => exact ⟨0, rfl, h⟩
  | request q next ih =>
    let t : Task := ⟨c, next (w.storage.answer q).1⟩
    have hstep : w.step (.advance n) = w.serve n q t := by
      rw [step, h]
      rfl
    have ht : (w.serve n q t).tasks[n]? = some t := by rw [tasks_serve (lt_length h), if_pos rfl]
    obtain ⟨k, hstorage, htasks⟩ := ih _ ht
    refine ⟨k + 1, ?_, ?_⟩
    · rw [List.replicate_succ, run, List.foldl_cons, hstep]
      exact hstorage
    · rw [List.replicate_succ, run, List.foldl_cons, hstep]
      exact htasks

/-- Moves that start nothing. -/
def Advances (moves : List Move) : Prop := ∀ m ∈ moves, ∃ n, m = .advance n

theorem Step.length_tasks_of_advance (h : Step w (.advance n) w') :
    w'.tasks.length = w.tasks.length := by
  cases h with
  | idle => rfl
  | served => exact List.length_set

theorem length_tasks_of_advances {moves : List Move} (h : Advances moves) :
    (w.run moves).tasks.length = w.tasks.length := by
  induction moves generalizing w with
  | nil => rfl
  | cons m moves ih =>
    obtain ⟨n, rfl⟩ := h m List.mem_cons_self
    have htail : Advances moves := fun m hm => h m (List.mem_cons_of_mem _ hm)
    exact (ih htail).trans (step_cases w (.advance n)).length_tasks_of_advance

/-- **All calls can be brought to an end**, whatever they did so far. -/
theorem exists_completion (w : Traffic) : ∃ moves, Advances moves ∧ (w.run moves).Ended := by
  -- the first `k` tasks one after another
  have hfirst : ∀ k ≤ w.tasks.length, ∃ moves, Advances moves ∧
      ∀ n < k, ∀ t, (w.run moves).tasks[n]? = some t → t.Ended := by
    intro k
    induction k with
    | zero =>
      exact fun _ => ⟨[], fun m hm => (List.not_mem_nil hm).elim, fun n hn => (Nat.not_lt_zero n hn).elim⟩
    | succ k ih =>
      intro hk
      obtain ⟨moves, hmoves, hended⟩ := ih (by omega)
      have hlt : k < (w.run moves).tasks.length := by
        rw [length_tasks_of_advances hmoves]
        omega
      obtain ⟨j, -, hdone⟩ := run_alone (List.getElem?_eq_getElem hlt)
      refine ⟨moves ++ List.replicate j (.advance k), ?_, ?_⟩
      · intro m hm
        obtain hm | hm := List.mem_append.mp hm
        · exact hmoves m hm
        · exact ⟨k, List.eq_of_mem_replicate hm⟩
      · intro n hn t ht
        rw [run_append] at ht
        obtain rfl | hn := Nat.lt_succ_iff_lt_or_eq.mp hn |>.symm
        · rw [hdone] at ht
          cases ht
          exact ⟨_, rfl⟩
        · have hlt : n < (w.run moves).tasks.length := by omega
          have hold := hended n hn _ (List.getElem?_eq_getElem hlt)
          rw [tasks_run_of_ended (List.getElem?_eq_getElem hlt) hold] at ht
          cases ht
          exact hold
  obtain ⟨moves, hmoves, hended⟩ := hfirst w.tasks.length (Nat.le_refl _)
  refine ⟨moves, hmoves, fun n t ht => hended n ?_ t ht⟩
  rw [← length_tasks_of_advances hmoves (w := w)]
  exact lt_length ht

end Traffic

/-! ### What an answer does to the storage -/

namespace Storage

/-- No request gives a stamp back. -/
theorem later_answer (st : Storage) (q : Request) : st.Later (st.answer q).2 := by
  cases q with
  | insert f =>
    cases hstamp : st.repository.get? st.nextStamp.id with
    | none =>
      rw [answer, insert_of_absent hstamp]
      exact ⟨rfl, Nat.le_succ _⟩
    | some g =>
      rw [answer, insert_of_present hstamp]
      exact ⟨rfl, Nat.le_succ _⟩
  | update f =>
    rw [answer, update]
    split <;> exact ⟨rfl, Nat.le_refl _⟩
  | get | delete | find | list => exact ⟨rfl, Nat.le_refl _⟩

/-- A request that writes a version of a filter. -/
inductive Writes (st : Storage) : Request → SavedFilter → Prop where
  /-- A filter is made, with an identity that no stored filter has. -/
  | made {new : NewFilter} (habsent : st.repository.get? st.nextStamp.id = none)
      (hissued : (st.answer (.insert new)).2.issued = st.issued + 1) :
      Writes st (.insert new) (new.stamped st.nextStamp)
  /-- A stored filter is replaced. -/
  | replaced {f g : SavedFilter} (hstored : st.repository.get? g.id = some f) :
      Writes st (.update g) g

/-- **Where a stored version comes from** when a request was answered: it was stored before, or the
request wrote it. -/
theorem stored_of_answer {st : Storage} {q : Request} {id : Uuid} {f : SavedFilter}
    (h : (st.answer q).2.repository.get? id = some f) :
    st.repository.get? id = some f ∨ f.id = id ∧ st.Writes q f := by
  cases q with
  | insert new =>
    cases hstamp : st.repository.get? st.nextStamp.id with
    | some g =>
      rw [answer, insert_of_present hstamp] at h
      exact .inl h
    | none =>
      have hinsert := insert_of_absent hstamp new
      rw [answer, hinsert] at h
      change (st.repository.put (new.stamped st.nextStamp)).get? id = some f at h
      rw [Repository.get?_put] at h
      split at h
      · next hid =>
        cases h
        refine .inr ⟨hid, .made hstamp ?_⟩
        rw [answer, hinsert]
        rfl
      · exact .inl h
  | update g =>
    cases hg : st.repository.get? g.id with
    | none =>
      rw [answer, update_of_absent hg] at h
      exact .inl h
    | some old =>
      rw [answer, update_of_get? hg] at h
      change (st.repository.put g).get? id = some f at h
      rw [Repository.get?_put] at h
      split at h
      · next hid =>
        cases h
        exact .inr ⟨hid, .replaced hg⟩
      · exact .inl h
  | delete id' =>
    change (st.repository.erase id').get? id = some f at h
    rw [Repository.get?_erase] at h
    split at h
    · cases h
    · exact .inl h
  | get | find | list => exact .inl h

end Storage

/-! ### The log -/

/-- Exchanges that lead from one storage to another. -/
def Chained : Storage → List Exchange → Storage → Prop
  | st, [], st' => st = st'
  | st, e :: es, st' => e.storage = st ∧ Chained e.after es st'

namespace Chained

variable {st mid st' : Storage} {es es' : List Exchange}

theorem append_iff :
    Chained st (es ++ es') st' ↔ ∃ mid, Chained st es mid ∧ Chained mid es' st' := by
  induction es generalizing st with
  | nil => simp [Chained]
  | cons e es ih => simp [Chained, ih, and_assoc]

/-- **A version that is stored** was stored before or was written since. -/
theorem stored (h : Chained st es st') {id : Uuid} {f : SavedFilter}
    (hf : st'.repository.get? id = some f) :
    st.repository.get? id = some f ∨
      ∃ e ∈ es, f.id = id ∧ e.storage.Writes e.request f := by
  induction es generalizing st with
  | nil =>
    cases h
    exact .inl hf
  | cons e es ih =>
    obtain ⟨rfl, h⟩ := h
    obtain hafter | ⟨e', he', hwrites⟩ := ih h
    · exact (Storage.stored_of_answer hafter).imp_right fun hw => ⟨e, List.mem_cons_self, hw⟩
    · exact .inr ⟨e', List.mem_cons_of_mem _ he', hwrites⟩

end Chained

namespace Traffic

variable {w w' : Traffic} {move : Move}

/-- The log only grows, and what is added to it leads from the storage before to the storage after. -/
theorem Step.log (h : Step w move w') :
    ∃ es, w'.log = w.log ++ es ∧ Chained w.storage es w'.storage := by
  cases h with
  | idle => exact ⟨[], (List.append_nil _).symm, rfl⟩
  | started => exact ⟨[], (List.append_nil _).symm, rfl⟩
  | @served n t t' q => exact ⟨[⟨n, q, w.storage⟩], rfl, rfl, rfl⟩

theorem log_run (w : Traffic) (moves : List Move) :
    ∃ es, (w.run moves).log = w.log ++ es ∧ Chained w.storage es (w.run moves).storage := by
  induction moves generalizing w with
  | nil => exact ⟨[], (List.append_nil _).symm, rfl⟩
  | cons m moves ih =>
    obtain ⟨es, hlog, hes⟩ := (step_cases w m).log
    obtain ⟨es', hlog', hes'⟩ := ih (w.step m)
    refine ⟨es ++ es', ?_, Chained.append_iff.mpr ⟨_, hes, hes'⟩⟩
    rw [← List.append_assoc, ← hlog]
    exact hlog'

theorem Step.later (h : Step w move w') : w.storage.Later w'.storage := by
  cases h with
  | idle | started => exact .refl _
  | served => exact w.storage.later_answer _

theorem later_run (w : Traffic) (moves : List Move) : w.storage.Later (w.run moves).storage :=
  run_induction (P := fun w' => w.storage.Later w'.storage) moves
    (fun _ hstep h => h.trans hstep.later) (.refl _)

end Traffic

/-! ### Tasks and their exchanges -/

namespace Traffic

variable {w w' : Traffic} {move : Move}

/-- What is said of each task and its exchanges holds of all tasks. -/
structure Traced (P : Nat → List Exchange → Task → Prop) (w : Traffic) : Prop where
  /-- The exchanges are those of tasks. -/
  numbered : ∀ e ∈ w.log, e.task < w.tasks.length
  /-- It holds of each task with its own exchanges. -/
  each : ∀ (n : Nat) (t : Task), w.tasks[n]? = some t → P n (w.exchangesOf n) t

theorem traced_start (P : Nat → List Exchange → Task → Prop) (st : Storage) : Traced P ⟨st, [], []⟩ :=
  ⟨fun _ he => (List.not_mem_nil he).elim, fun _ _ ht => by cases ht⟩

/-- The next task has no exchanges yet. -/
theorem Traced.exchangesOf_length {P : Nat → List Exchange → Task → Prop} (h : w.Traced P) :
    w.exchangesOf w.tasks.length = [] :=
  List.filter_eq_nil_iff.mpr fun e he => by
    have hlt := h.numbered e he
    simp only [decide_eq_true_eq]
    omega

/-- What holds of every task that is started, and is kept by every request, holds of all tasks. -/
theorem Step.traced {P : Nat → List Exchange → Task → Prop} (hstep : Step w move w')
    (hstart : ∀ n s c, move = .start s c → P n [] (.ofCommand s c))
    (hserve : ∀ n own t q t', P n own t → t.serve? w.storage = some (q, t') →
      P n (own ++ [⟨n, q, w.storage⟩]) t')
    (h : w.Traced P) : w'.Traced P := by
  cases hstep with
  | idle => exact h
  | @started s c =>
    refine ⟨fun e he => ?_, fun n t ht => ?_⟩
    · have hlt := h.numbered e he
      simp only [add, List.length_append]
      omega
    · obtain ht | ⟨rfl, rfl⟩ := tasks_add ht
      · exact h.each n t ht
      · change P _ (w.exchangesOf w.tasks.length) _
        rw [h.exchangesOf_length]
        exact hstart _ s c rfl
  | @served n t t' q ht hreply =>
    refine ⟨fun e he => ?_, fun m u hu => ?_⟩
    · simp only [serve, List.length_set]
      obtain he | he := List.mem_append.mp he
      · exact h.numbered e he
      · cases List.mem_singleton.mp he
        exact lt_length ht
    · rw [tasks_serve (lt_length ht)] at hu
      rw [exchangesOf_serve]
      split at hu
      · next hm =>
        cases hu
        subst hm
        rw [if_pos rfl]
        exact hserve _ _ t q t' (h.each _ t ht) hreply
      · next hm =>
        rw [if_neg hm]
        exact h.each m u hu

end Traffic

end Filterbook

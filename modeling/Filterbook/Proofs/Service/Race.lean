import Filterbook.Proofs.Access.Visibility
import Filterbook.Proofs.Service.Interleaving
import Filterbook.Proofs.Service.Reachable

/-!
# Racing applications

An ephemeral filter that its owner applies several times at once. Each application first looks the
filter up and later deletes it, and anything that the others do may come between. The first deletion
decides the race: whoever had looked before it gets the rows, though the filter may be gone by then, and
whoever looks after it is told that there is no such filter.

## What is proved

* `Race.Standing.serve`: one request takes an application from one of its four standings to the next.
* `Race.underway_run`: a race is open, with the filter stored and nothing but lookups in the log, or it is
  decided by one deletion, with the filter gone ever since.
* `Race.first_deletion_decides`: what comes of every application, in every order of their requests.
-/

namespace Filterbook

/-- What racing applications have in common: a service, with its grants and its records, and a storage
with an ephemeral filter that a user made and may apply. -/
structure Race where
  /-- The service. -/
  service : Service
  /-- The storage before the race. -/
  storage : Storage
  /-- The owner. -/
  user : User
  /-- The model. -/
  target : String
  /-- The identity of the filter. -/
  id : Uuid
  /-- The filter. -/
  filter : SavedFilter
  /-- What the filter compiles to. -/
  compiled : Filter
  /-- The user has access to the records. -/
  reaches : service.access.reaches user target = true
  /-- The filter is stored. -/
  stored : storage.repository.get? id = some filter
  /-- It is for the model. -/
  target_eq : filter.target = target
  /-- The user made it. -/
  owned : filter.isOwnedBy user.id = true
  /-- It is deleted after its first use. -/
  ephemeral : filter.ephemeral = true
  /-- It compiles. -/
  compiles : filter.compile service.registry service.catalog = .ok compiled
  /-- Its patterns are well formed. -/
  wellFormed : compiled.badPattern? = none

namespace Race

variable (r : Race)

/-- The command that is run again and again. -/
def command : Command := .apply r.user r.target r.id

/-- The first request of an application. -/
def lookup : Request := .find (r.service.visibleQuery r.user r.target) r.id

/-- The second request of an application. -/
def deletion : Request := .delete r.id

/-- The storage once the filter is gone. -/
def gone : Storage := r.storage.without r.id

/-- The rows that the filter selects. -/
def rows : List Json :=
  firstOfRecords [] ((r.service.records.rows r.target).filter fun row => r.compiled.holds row)

/-- What an application gets that found the filter. -/
def use : AppliedFilter := ⟨r.filter, r.rows, false, true⟩

/-- An application that begins. -/
def ready : Task := .ofCommand r.service r.command

/-- An application that found the filter. -/
def holding : Task := ⟨r.command, .request r.deletion fun _ => .done (.ok r.use)⟩

/-- An application with its result. -/
def served : Task := ⟨r.command, .done (.ok r.use)⟩

/-- An application that was told that there is no such filter. -/
def missed : Task := ⟨r.command, .done (.error (Service.noFilterFor r.target))⟩

/-- Moves of the race: nothing but applications of the filter is started. -/
def Moves (moves : List Move) : Prop :=
  ∀ m ∈ moves, m = .start r.service r.command ∨ ∃ n, m = .advance n

/-! ### One application -/

variable {r}

theorem get?_gone : r.gone.repository.get? r.id = none := r.storage.get?_without r.id

theorem gone_ne_storage : r.gone ≠ r.storage := by
  intro h
  have hget := r.stored
  rw [← h, get?_gone] at hget
  cases hget

/-- The owner sees the filter. -/
theorem find?_storage :
    r.storage.repository.find? (r.service.visibleQuery r.user r.target) r.id = some r.filter := by
  have hadmits : (r.service.visibleQuery r.user r.target).admits r.filter = true := by
    simp [ListQuery.admits, Service.visibleQuery, Access.contains_visibility, r.owned, r.target_eq]
  rw [Repository.find?, r.stored, Option.filter_some, if_pos hadmits]

theorem find?_gone :
    r.gone.repository.find? (r.service.visibleQuery r.user r.target) r.id = none :=
  Repository.find?_of_absent get?_gone

theorem rowsOf_filter : r.service.rowsOf r.target r.filter = .ok r.rows := by
  rw [Service.rowsOf, r.compiles]
  simp only [Except.bind, Records.select, r.wellFormed]
  rfl

/-- An application that looks in time finds the filter, and has its rows. -/
theorem ready_serve_storage : r.ready.serve? r.storage = some (r.lookup, r.holding) := by
  simp only [ready, Task.serve?, Task.ofCommand, command, Service.call, Service.apply, r.reaches,
    if_true, Storage.answer, find?_storage, rowsOf_filter, r.ephemeral, r.owned, Bool.and_self]
  rfl

/-- One that looks too late is told that there is no such filter. -/
theorem ready_serve_gone : r.ready.serve? r.gone = some (r.lookup, r.missed) := by
  simp only [ready, Task.serve?, Task.ofCommand, command, Service.call, Service.apply, r.reaches,
    if_true, Storage.answer, find?_gone]
  rfl

/-- How far application `n` has come, and the requests of it that were answered. -/
inductive Standing (r : Race) (n : Nat) : List Exchange → Task → Prop where
  /-- It has made no request. -/
  | ready : Standing r n [] r.ready
  /-- It found the filter. -/
  | holding : Standing r n [⟨n, r.lookup, r.storage⟩] r.holding
  /-- It found the filter, and has asked for the deletion. -/
  | served {st : Storage} : Standing r n [⟨n, r.lookup, r.storage⟩, ⟨n, r.deletion, st⟩] r.served
  /-- It came too late. -/
  | missed : Standing r n [⟨n, r.lookup, r.gone⟩] r.missed

/-- **One request** takes an application from one standing to the next. -/
theorem Standing.serve {n : Nat} {own : List Exchange} {t t' : Task} {st : Storage} {q : Request}
    (h : r.Standing n own t) (hst : st = r.storage ∨ st = r.gone)
    (hserve : t.serve? st = some (q, t')) :
    r.Standing n (own ++ [⟨n, q, st⟩]) t' ∧ (q = r.lookup ∨ q = r.deletion) := by
  cases h with
  | ready =>
    obtain rfl | rfl := hst
    · rw [ready_serve_storage] at hserve
      cases hserve
      exact ⟨.holding, .inl rfl⟩
    · rw [ready_serve_gone] at hserve
      cases hserve
      exact ⟨.missed, .inl rfl⟩
  | holding =>
    cases hserve
    exact ⟨.served, .inr rfl⟩
  | served => cases hserve
  | missed => cases hserve

/-! ### All applications -/

/-- How far a race has come, by the storage and the log. -/
inductive Phase (r : Race) (st : Storage) (log : List Exchange) : Prop where
  /-- The filter is stored, and there were nothing but lookups. -/
  | opened (hstorage : st = r.storage)
      (hlog : ∀ e ∈ log, e.request = r.lookup ∧ e.storage = r.storage)
  /-- One deletion has removed the filter, and it is gone ever since. -/
  | decided (hstorage : st = r.gone) (before : List Exchange) (n : Nat) (after : List Exchange)
      (hlog : log = before ++ ⟨n, r.deletion, r.storage⟩ :: after)
      (hbefore : ∀ e ∈ before, e.request = r.lookup ∧ e.storage = r.storage)
      (hafter : ∀ e ∈ after, (e.request = r.lookup ∨ e.request = r.deletion) ∧ e.storage = r.gone)

/-- In either phase a request meets the storage with the filter or the one without it. -/
theorem Phase.storage_eq {st : Storage} {log : List Exchange} (h : r.Phase st log) :
    st = r.storage ∨ st = r.gone := by
  cases h with
  | opened hstorage => exact .inl hstorage
  | decided hstorage => exact .inr hstorage

/-- **One request** of an application leaves the race open or decides it; a race that is decided stays
so. -/
theorem Phase.serve {w : Traffic} {n : Nat} {t : Task} {q : Request} (h : r.Phase w.storage w.log)
    (hq : q = r.lookup ∨ q = r.deletion) :
    r.Phase (w.serve n q t).storage (w.serve n q t).log := by
  cases h with
  | opened hstorage hlog =>
    obtain rfl | rfl := hq
    · refine .opened hstorage fun e he => ?_
      obtain he | he := List.mem_append.mp he
      · exact hlog e he
      · cases List.mem_singleton.mp he
        exact ⟨rfl, hstorage⟩
    · refine .decided ?_ w.log n [] ?_ hlog (by simp)
      · change w.storage.without r.id = r.gone
        rw [hstorage, gone]
      · rw [Traffic.serve, hstorage]
  | decided hstorage before k after hlog hbefore hafter =>
    have hkept : (w.serve n q t).storage = r.gone := by
      obtain rfl | rfl := hq
      · exact hstorage
      · change w.storage.without r.id = r.gone
        rw [hstorage, Storage.without_of_absent get?_gone]
    refine .decided hkept before k (after ++ [⟨n, q, w.storage⟩]) ?_ hbefore fun e he => ?_
    · rw [Traffic.serve, hlog, List.append_assoc, List.cons_append]
    · obtain he | he := List.mem_append.mp he
      · exact hafter e he
      · cases List.mem_singleton.mp he
        exact ⟨hq, hstorage⟩

/-- Each application has one of the four standings, and the race is open or decided. -/
structure Underway (r : Race) (w : Traffic) : Prop where
  /-- The standings. -/
  standings : w.Traced r.Standing
  /-- The phase. -/
  phase : r.Phase w.storage w.log

/-- **What every move keeps**, if nothing but applications of the filter is started. -/
theorem underway_step {w w' : Traffic} {move : Move}
    (hmove : move = .start r.service r.command ∨ ∃ n, move = .advance n) (hstep : w.Step move w')
    (h : r.Underway w) : r.Underway w' := by
  constructor
  · refine hstep.traced (fun n s c hstart => ?_) (fun n own t q t' hstanding hserve => ?_) h.standings
    · obtain hmove | ⟨k, hmove⟩ := hmove
      · cases hstart.symm.trans hmove
        exact .ready
      · cases hstart.symm.trans hmove
    · exact (hstanding.serve h.phase.storage_eq hserve).1
  · cases hstep with
    | idle | started => exact h.phase
    | @served n t t' q ht hserve =>
      have hstanding := h.standings.each n t ht
      exact h.phase.serve (hstanding.serve h.phase.storage_eq hserve).2

theorem underway_run {moves : List Move} (hmoves : r.Moves moves) :
    r.Underway (Traffic.run ⟨r.storage, [], []⟩ moves) :=
  Traffic.run_induction moves (fun hm hstep h => underway_step (hmoves _ hm) hstep h)
    ⟨Traffic.traced_start _ _, .opened rfl fun _ he => (List.not_mem_nil he).elim⟩

/-! ### The end of a race -/

/-- An application that has ended found the filter and asked for its deletion, or came too late. -/
theorem Standing.ended {n : Nat} {own : List Exchange} {t : Task} (h : r.Standing n own t)
    (hended : t.Ended) :
    (t = r.served ∧ ∃ st, own = [⟨n, r.lookup, r.storage⟩, ⟨n, r.deletion, st⟩]) ∨
      (t = r.missed ∧ own = [⟨n, r.lookup, r.gone⟩]) := by
  obtain ⟨a, ha⟩ := hended
  cases h with
  | ready =>
    have hserve := r.ready_serve_storage
    rw [Task.serve?, ha] at hserve
    cases hserve
  | holding => cases ha
  | served => exact .inl ⟨rfl, _, rfl⟩
  | missed => exact .inr ⟨rfl, rfl⟩

theorem lookup_ne_deletion : r.lookup ≠ r.deletion := nofun

namespace Underway

variable {w : Traffic} (h : r.Underway w) (hended : w.Ended)
include h hended

/-- Whoever found the filter there gets the rows. -/
theorem served_of_mem {e : Exchange} (he : e ∈ w.log) (hstorage : e.storage = r.storage) :
    w.tasks[e.task]? = some r.served := by
  obtain ⟨t, ht⟩ : ∃ t, w.tasks[e.task]? = some t :=
    ⟨_, List.getElem?_eq_getElem (h.standings.numbered e he)⟩
  have hown : e ∈ w.exchangesOf e.task := List.mem_filter.mpr ⟨he, by simp⟩
  obtain ⟨rfl, -⟩ | ⟨-, hexchanges⟩ := (h.standings.each _ t ht).ended (hended _ t ht)
  · exact ht
  · rw [hexchanges] at hown
    have hgone : e.storage = r.gone := congrArg Exchange.storage (List.mem_singleton.mp hown)
    exact (gone_ne_storage (hgone.symm.trans hstorage)).elim

/-- Whoever looked too late is told that there is no such filter. -/
theorem missed_of_lookup {e : Exchange} (he : e ∈ w.log) (hstorage : e.storage = r.gone)
    (hrequest : e.request = r.lookup) : w.tasks[e.task]? = some r.missed := by
  obtain ⟨t, ht⟩ : ∃ t, w.tasks[e.task]? = some t :=
    ⟨_, List.getElem?_eq_getElem (h.standings.numbered e he)⟩
  have hown : e ∈ w.exchangesOf e.task := List.mem_filter.mpr ⟨he, by simp⟩
  obtain ⟨-, st, hexchanges⟩ | ⟨rfl, -⟩ := (h.standings.each _ t ht).ended (hended _ t ht)
  · rw [hexchanges] at hown
    obtain hfirst | hown := List.mem_cons.mp hown
    · have hfound : e.storage = r.storage := congrArg Exchange.storage hfirst
      exact (gone_ne_storage (hstorage.symm.trans hfound)).elim
    · have hdeletion : e.request = r.deletion :=
        congrArg Exchange.request (List.mem_singleton.mp hown)
      exact (lookup_ne_deletion (hrequest.symm.trans hdeletion)).elim
  · exact ht

/-- An open race has not ended, unless nobody takes part. -/
theorem not_opened (htasks : w.tasks ≠ [])
    (hlog : ∀ e ∈ w.log, e.request = r.lookup ∧ e.storage = r.storage) : False := by
  have ht := List.getElem?_eq_getElem (List.length_pos_iff.mpr htasks)
  obtain ⟨-, st, hexchanges⟩ | ⟨-, hexchanges⟩ := (h.standings.each 0 _ ht).ended (hended 0 _ ht)
  · have hown : ⟨0, r.deletion, st⟩ ∈ w.exchangesOf 0 := by simp [hexchanges]
    exact lookup_ne_deletion (hlog _ (List.mem_filter.mp hown).1).1.symm
  · have hown : ⟨0, r.lookup, r.gone⟩ ∈ w.exchangesOf 0 := by simp [hexchanges]
    exact gone_ne_storage (hlog _ (List.mem_filter.mp hown).1).2

end Underway

/-- A lookup removes nothing. -/
theorem removed?_of_lookup {e : Exchange} (h : e.request = r.lookup) : e.removed? = none := by
  rw [Exchange.removed?, h]
  rfl

/-- Nothing is removed by the requests of a race once the filter is gone. -/
theorem removed?_of_gone {e : Exchange} (h : e.request = r.lookup ∨ e.request = r.deletion)
    (hstorage : e.storage = r.gone) : e.removed? = none := by
  obtain h | h := h
  · exact removed?_of_lookup h
  · rw [Exchange.removed?, h, hstorage]
    exact get?_gone

/-- **The first deletion decides**: however the requests of the applications of an ephemeral filter
follow each other, all applications come to an end, and then one of the deletions has removed the
filter. Those that looked before it have the rows, those that looked after it were told that there is no
such filter, and there is no other outcome. -/
theorem first_deletion_decides (r : Race) {moves : List Move} (hmoves : r.Moves moves) {w : Traffic}
    (hw : Traffic.run ⟨r.storage, [], []⟩ moves = w) (htasks : w.tasks ≠ []) :
    (∃ more, Traffic.Advances more ∧ (w.run more).Ended) ∧
      (w.Ended →
        (∃ before n after, w.log = before ++ ⟨n, r.deletion, r.storage⟩ :: after ∧
          (∀ e ∈ before, e.request = r.lookup ∧ w.tasks[e.task]? = some r.served) ∧
          (∀ e ∈ after, e.request = r.lookup → w.tasks[e.task]? = some r.missed) ∧
          (r.storage.answer (.delete r.id)).1 = .ok true ∧
          w.log.filter (·.removed?.isSome) = [⟨n, r.deletion, r.storage⟩]) ∧
        (∀ n t, w.tasks[n]? = some t →
          (t = r.served ∧ (w.exchangesOf n).map Exchange.request = [r.lookup, r.deletion]) ∨
            (t = r.missed ∧ (w.exchangesOf n).map Exchange.request = [r.lookup])) ∧
        w.storage = r.storage.without r.id ∧ w.storage.repository.get? r.id = none) := by
  have h : r.Underway w := hw ▸ underway_run hmoves
  refine ⟨w.exists_completion, fun hended => ?_⟩
  cases h.phase with
  | opened hstorage hlog => exact (h.not_opened hended htasks hlog).elim
  | decided hstorage before n after hlog hbefore hafter =>
    have hdecisive : Exchange.removed? ⟨n, r.deletion, r.storage⟩ = some r.filter := r.stored
    refine ⟨⟨before, n, after, hlog, fun e he => ?_, fun e he hlookup => ?_, ?_, ?_⟩,
      fun n t ht => ?_, hstorage, ?_⟩
    · have hmem : e ∈ w.log := hlog ▸ List.mem_append_left _ he
      exact ⟨(hbefore e he).1, h.served_of_mem hended hmem (hbefore e he).2⟩
    · have hmem : e ∈ w.log := hlog ▸ List.mem_append_right _ (List.mem_cons_of_mem _ he)
      exact h.missed_of_lookup hended hmem (hafter e he).2 hlookup
    · change Except.ok (r.storage.repository.get? r.id).isSome = Except.ok true
      rw [r.stored, Option.isSome_some]
    · have hnone : ∀ e ∈ before, e.removed?.isSome = false := fun e he => by
        rw [removed?_of_lookup (hbefore e he).1, Option.isSome_none]
      have hnone' : ∀ e ∈ after, e.removed?.isSome = false := fun e he => by
        rw [removed?_of_gone (hafter e he).1 (hafter e he).2, Option.isSome_none]
      rw [hlog, List.filter_append, List.filter_eq_nil_iff.mpr (by simpa using hnone),
        List.filter_cons_of_pos (by rw [hdecisive, Option.isSome_some]),
        List.filter_eq_nil_iff.mpr (by simpa using hnone'), List.nil_append]
    · obtain ⟨hserved, st, hown⟩ | ⟨hmissed, hown⟩ := (h.standings.each n t ht).ended (hended n t ht)
      · exact .inl ⟨hserved, by rw [hown]; rfl⟩
      · exact .inr ⟨hmissed, by rw [hown]; rfl⟩
    · rw [hstorage]
      exact get?_gone

/-- A superuser's filter on customers, for one use. -/
def forOneUse : SavedFilter where
  id := .ofNat 0
  target := "Customer"
  owner := 1
  created := (Session.countedStamps 0).created
  ephemeral := true
  clauses := undecorated.map Checked.toClause

/-- A race for it. -/
def customerRace : Race where
  service := Session.customerService
  storage := {
    repository := Repository.empty.put forOneUse
    issued := 1
    stamps := Session.countedStamps }
  user := ⟨1, true, false⟩
  target := "Customer"
  id := .ofNat 0
  filter := forOneUse
  compiled := compile undecorated
  reaches := rfl
  stored := rfl
  target_eq := rfl
  owned := rfl
  ephemeral := rfl
  compiles := rfl
  wellFormed := rfl

/-- Two applications look the filter up before either deletes it, and a third comes after. -/
def threeApplications : List Move :=
  [.start customerRace.service customerRace.command, .start customerRace.service customerRace.command,
    .advance 0, .advance 1, .advance 1, .start customerRace.service customerRace.command, .advance 2,
    .advance 0]

theorem first_deletion_decides_three :
    (Traffic.run ⟨customerRace.storage, [], []⟩ threeApplications).tasks =
        [customerRace.served, customerRace.served, customerRace.missed] ∧
      (Traffic.run ⟨customerRace.storage, [], []⟩ threeApplications).storage.repository.get?
        (.ofNat 0) = none := by
  have hmoves : customerRace.Moves threeApplications := by
    simp [Moves, threeApplications]
  have htasks : (Traffic.run ⟨customerRace.storage, [], []⟩ threeApplications).tasks =
      [customerRace.served, customerRace.served, customerRace.missed] := rfl
  have hended : (Traffic.run ⟨customerRace.storage, [], []⟩ threeApplications).Ended := by
    intro n t ht
    have hmem := List.mem_of_getElem? ht
    rw [htasks] at hmem
    simp only [List.mem_cons, List.not_mem_nil, or_false] at hmem
    obtain rfl | rfl | rfl := hmem <;> exact ⟨_, rfl⟩
  have hrace := first_deletion_decides customerRace hmoves rfl (by rw [htasks]; simp)
  exact ⟨htasks, (hrace.2 hended).2.2.2⟩

end Race

end Filterbook

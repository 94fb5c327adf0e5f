import Filterbook.Proofs.Service.Footprint
import Filterbook.Proofs.Service.Stages

/-!
# Filters that are gone

Calls in any order, and a filter that one of them removed. An update looks a filter up and later writes
it back, so copies of it are under way when it goes; and its identity may come up again in commands. No
copy brings it back, since what is written must still be stored, and no new filter gets its identity.

## What is proved

* `Storage.Writes.cases_of_fresh`: what is written has an identity that was never issued before, or it
  takes the place of a stored version.
* `Traffic.lineage_run`: all versions of a filter, stored or in the hands of a call, have one origin,
  and a filter that was removed is not stored.
* `Task.refused_of_absent`: what a call is told about a filter that is not there.
* `Traffic.removed_filters_stay_gone`: what follows once a filter was removed.

All of this needs identities that do not repeat (`Storage.Fresh`), with those of the filters that are
stored at the start among the issued ones.
-/

namespace Filterbook

/-! ### Identities -/

/-- What is written has an identity that was never issued before, or it takes the place of a stored
version. -/
theorem Storage.Writes.cases_of_fresh {st : Storage} {q : Request} {f : SavedFilter}
    (h : st.Writes q f) (hfresh : (st.answer q).2.Fresh) :
    (¬ st.Issued f.id ∧ (st.answer q).2.Issued f.id) ∨
      (q = .update f ∧ ∃ g, st.repository.get? f.id = some g) := by
  have hlater := st.later_answer q
  cases h with
  | @made new habsent hissued =>
    have hlast : st.issued < (st.answer (.insert new)).2.issued := by omega
    refine .inl ⟨?_, st.issued, hlast, by rw [hlater.stamps_eq]; rfl⟩
    rintro ⟨n, hn, hid⟩
    refine hfresh st.issued hlast n hn ?_
    rw [hlater.stamps_eq]
    exact hid
  | replaced hstored => exact .inr ⟨rfl, _, hstored⟩

namespace Traffic

variable {w w' : Traffic} {move : Move} {id : Uuid} {f g : SavedFilter}

/-- What every move keeps as long as identities do not repeat, every run keeps. -/
theorem run_induction_of_fresh {P : Traffic → Prop} {moves : List Move}
    (hstep : ∀ {w m w'}, Step w m w' → w'.storage.Fresh → P w → P w') (h : P w)
    (hfresh : (w.run moves).storage.Fresh) : P (w.run moves) :=
  run_induction (P := fun w => w.storage.Fresh → P w) moves
    (fun _ hmove hw hfresh => hstep hmove hfresh (hw (hmove.later.fresh hfresh))) (fun _ => h) hfresh

/-! ### Versions -/

/-- A version of a filter that is stored, or that a request met. -/
def Held (w : Traffic) (f : SavedFilter) : Prop :=
  w.storage.repository.get? f.id = some f ∨ ∃ e ∈ w.log, e.storage.repository.get? f.id = some f

theorem held_of_stored (h : w.storage.repository.get? id = some f) : w.Held f := by
  cases Repository.id_of_get? h
  exact .inl h

theorem held_of_mem_log {e : Exchange} (he : e ∈ w.log) (h : e.storage.repository.get? id = some f) :
    w.Held f := by
  cases Repository.id_of_get? h
  exact .inr ⟨e, he, h⟩

/-- A version that was stored is held ever after. -/
theorem held_run (h : w.storage.repository.get? id = some f) (moves : List Move) :
    (w.run moves).Held f := by
  obtain ⟨es, hlog, hchain⟩ := w.log_run moves
  cases es with
  | nil =>
    rw [Chained] at hchain
    rw [hchain] at h
    exact held_of_stored h
  | cons e es =>
    have he : e ∈ (w.run moves).log := by simp [hlog]
    exact held_of_mem_log he (by rwa [hchain.1])

/-- **Where a version comes from**: it was held before, perhaps with another editable part, or it is
stored now under an identity that was never issued. -/
theorem Step.origin (hstep : Step w move w') (hfresh : w'.storage.Fresh) (hw : w.Coherent)
    (h : w'.Held f) :
    (∃ g, w.Held g ∧ f.SameOrigin g) ∨
      (¬ w.storage.Issued f.id ∧ w'.storage.Issued f.id ∧
        w'.storage.repository.get? f.id = some f) := by
  cases hstep with
  | idle | started => exact .inl ⟨f, h, .refl f⟩
  | @served n t t' q ht hserve =>
    obtain h | ⟨e, he, h⟩ := h
    · obtain hold | ⟨-, hwrites⟩ := Storage.stored_of_answer h
      · exact .inl ⟨f, .inl hold, .refl f⟩
      · obtain ⟨hnew, hissued⟩ | ⟨rfl, -⟩ := hwrites.cases_of_fresh hfresh
        · exact .inr ⟨hnew, hissued, h⟩
        · -- the copy that the update was made from
          obtain ⟨s, st₀, user, id, draft, g, hown, hg, hedited, -⟩ :=
            (hw.each n t ht).of_update hserve
          have hmem : ⟨n, .get id, st₀⟩ ∈ w.exchangesOf n := by simp [hown]
          obtain ⟨clauses, -, rfl⟩ := Service.edited_eq_ok s hedited
          exact .inl ⟨g, held_of_mem_log (List.mem_filter.mp hmem).1 hg, ⟨rfl, rfl, rfl, rfl⟩⟩
    · obtain he | he := List.mem_append.mp he
      · exact .inl ⟨f, .inr ⟨e, he, h⟩, .refl f⟩
      · cases List.mem_singleton.mp he
        exact .inl ⟨f, .inl h, .refl f⟩

/-- A filter that was there and is not stored. -/
structure Gone (w : Traffic) (id : Uuid) : Prop where
  /-- Its identity was issued. -/
  issued : w.storage.Issued id
  /-- It is not stored. -/
  absent : w.storage.repository.get? id = none

/-- **What is gone stays gone.** -/
theorem Step.gone (hstep : Step w move w') (hfresh : w'.storage.Fresh) (h : w.Gone id) :
    w'.Gone id := by
  refine ⟨hstep.later.issued h.issued, ?_⟩
  cases hstep with
  | idle | started => exact h.absent
  | @served n t t' q ht hserve =>
    rw [Option.eq_none_iff_forall_ne_some]
    intro f hf
    obtain hold | ⟨rfl, hwrites⟩ := Storage.stored_of_answer hf
    · rw [h.absent] at hold
      cases hold
    · obtain ⟨hnew, -⟩ | ⟨-, g, hstored⟩ := hwrites.cases_of_fresh hfresh
      · exact hnew h.issued
      · rw [h.absent] at hstored
        cases hstored

/-- A request has removed the filter. -/
def Removed (w : Traffic) (id : Uuid) : Prop :=
  ∃ e ∈ w.log, e.request = .delete id ∧ e.removed?.isSome = true

/-- What the versions of filters have in common. -/
structure Lineage (w : Traffic) : Prop where
  /-- Each task is at the stage that its exchanges have brought it to. -/
  coherent : w.Coherent
  /-- The identity of every version was issued. -/
  issued : ∀ f, w.Held f → w.storage.Issued f.id
  /-- All versions of a filter have one origin. -/
  sameOrigin : ∀ f g, w.Held f → w.Held g → f.id = g.id → f.SameOrigin g
  /-- A filter that was removed is gone. -/
  gone : ∀ id, w.Removed id → w.Gone id

theorem Step.issued (hstep : Step w move w') (hfresh : w'.storage.Fresh) (h : w.Lineage)
    (hf : w'.Held f) : w'.storage.Issued f.id := by
  obtain ⟨f₀, hf₀, hsame⟩ | ⟨-, hissued, -⟩ := hstep.origin hfresh h.coherent hf
  · rw [hsame.id_eq]
    exact hstep.later.issued (h.issued f₀ hf₀)
  · exact hissued

/-- Two versions of a filter go back to versions held before, or both are the one that is new. -/
theorem Step.sameOrigin (hstep : Step w move w') (hfresh : w'.storage.Fresh) (h : w.Lineage)
    (hf : w'.Held f) (hg : w'.Held g) (hid : f.id = g.id) : f.SameOrigin g := by
  obtain ⟨f₀, hf₀, hf⟩ | ⟨hnew, -, hf⟩ := hstep.origin hfresh h.coherent hf
  · obtain ⟨g₀, hg₀, hg⟩ | ⟨hnew, -, -⟩ := hstep.origin hfresh h.coherent hg
    · have hid₀ : f₀.id = g₀.id := hf.id_eq.symm.trans (hid.trans hg.id_eq)
      exact hf.trans ((h.sameOrigin f₀ g₀ hf₀ hg₀ hid₀).trans hg.symm)
    · refine (hnew ?_).elim
      rw [← hid, hf.id_eq]
      exact h.issued f₀ hf₀
  · obtain ⟨g₀, hg₀, hg⟩ | ⟨-, -, hg⟩ := hstep.origin hfresh h.coherent hg
    · refine (hnew ?_).elim
      rw [hid, hg.id_eq]
      exact h.issued g₀ hg₀
    · rw [hid, hg] at hf
      cases hf
      exact .refl f

/-- A filter that a request removes is gone. -/
theorem Step.gone_of_removed (hstep : Step w move w') (hfresh : w'.storage.Fresh) (h : w.Lineage)
    (hremoved : w'.Removed id) : w'.Gone id := by
  have hmove := hstep
  obtain ⟨e, he, hrequest, hsome⟩ := hremoved
  cases hstep with
  | idle | started => exact hmove.gone hfresh (h.gone id ⟨e, he, hrequest, hsome⟩)
  | @served n t t' q ht hserve =>
    obtain he | he := List.mem_append.mp he
    · exact hmove.gone hfresh (h.gone id ⟨e, he, hrequest, hsome⟩)
    · cases List.mem_singleton.mp he
      cases hrequest
      obtain ⟨f, hf⟩ := Option.isSome_iff_exists.mp hsome
      have hissued := h.issued f (held_of_stored hf)
      rw [Repository.id_of_get? hf] at hissued
      exact ⟨hmove.later.issued hissued, w.storage.get?_without id⟩

/-- **What every move keeps**: nothing is stored that was not held before or is new. -/
theorem Step.lineage (hstep : Step w move w') (hfresh : w'.storage.Fresh) (h : w.Lineage) :
    w'.Lineage where
  coherent := hstep.coherent h.coherent
  issued _ := hstep.issued hfresh h
  sameOrigin _ _ := hstep.sameOrigin hfresh h
  gone _ := hstep.gone_of_removed hfresh h

theorem lineage_run {st : Storage} (hstored : ∀ id f, st.repository.get? id = some f → st.Issued id)
    {moves : List Move} (hfresh : (run ⟨st, [], []⟩ moves).storage.Fresh) :
    (run ⟨st, [], []⟩ moves).Lineage := by
  refine run_induction_of_fresh Step.lineage ⟨traced_start _ st, ?_, ?_, ?_⟩ hfresh
  · rintro f (hf | ⟨e, he, -⟩)
    · exact hstored _ f hf
    · cases he
  · rintro f g (hf | ⟨e, he, -⟩) (hg | ⟨e, he, -⟩) hid
    · rw [hid, hg] at hf
      cases hf
      exact .refl f
    all_goals cases he
  · rintro id ⟨e, he, -⟩
    cases he

end Traffic

/-! ### What is said about a filter that is not there -/

/-- The filter that a command is about. -/
def Command.sought? : Command → Option Uuid
  | .update _ id _ | .delete _ id | .get _ id | .apply _ _ id => some id
  | .create .. | .check .. | .list .. | .lookups .. => none

/-- What a command is told when there is no such filter. -/
def Command.refusal : Command → QueryError
  | .apply _ target _ => Service.noFilterFor target
  | _ => Service.noFilter

/-- The command is told that there is no such filter. -/
def Task.Refused (t : Task) : Prop :=
  ∃ a, t.call = .done a ∧ t.command.failure? a = some t.command.refusal

namespace Task

theorem Refused.ended {t : Task} (h : t.Refused) : t.Ended := by
  obtain ⟨a, ha, -⟩ := h
  exact ⟨a, ha⟩

/-- **What a command is told about a filter that is not there**: at once, or after its first request,
that there is none. -/
theorem refused_of_absent {c : Command} {id : Uuid} (hc : c.sought? = some id) {st : Storage}
    (hst : st.repository.get? id = none) (s : Service) :
    (ofCommand s c).Refused ∨ ∃ q t', (ofCommand s c).serve? st = some (q, t') ∧ t'.Refused := by
  cases c with
  | update user id' draft =>
    cases hc
    refine .inr ⟨_, _, rfl, .error Service.noFilter, ?_, rfl⟩
    simp only [Storage.answer, hst]
    rfl
  | delete user id' =>
    cases hc
    refine .inr ⟨_, _, rfl, .error Service.noFilter, ?_, rfl⟩
    simp only [Storage.answer, hst]
    rfl
  | get user id' =>
    cases hc
    refine .inr ⟨_, _, rfl, .error Service.noFilter, ?_, rfl⟩
    simp only [Storage.answer, hst]
    rfl
  | apply user target id' =>
    cases hc
    cases hreaches : s.access.reaches user target with
    | false =>
      refine .inl ⟨.error (Service.noFilterFor target), ?_, rfl⟩
      simp [ofCommand, Service.call, Service.apply, hreaches]
    | true =>
      have hfind : st.repository.find? (s.visibleQuery user target) id = none :=
        Repository.find?_of_absent hst
      refine .inr ⟨.find (s.visibleQuery user target) id,
        ⟨.apply user target id, .done (.error (Service.noFilterFor target))⟩, ?_, _, rfl, rfl⟩
      simp only [serve?, ofCommand, Service.call, Service.apply, hreaches, if_true, Storage.answer,
        hfind]
  | create | check | list | lookups => cases hc

end Task

namespace Traffic

variable {w w' : Traffic} {move : Move} {id : Uuid}

/-- Task `n` was told that there is no such filter. -/
def Refuses (w : Traffic) (n : Nat) : Prop := ∃ t, w.tasks[n]? = some t ∧ t.Refused

/-- What was refused stays refused. -/
theorem Step.refuses (hstep : Step w move w') {n : Nat} (h : w.Refuses n) : w'.Refuses n := by
  obtain ⟨t, ht, hrefused⟩ := h
  exact ⟨t, hstep.tasks_of_ended ht hrefused.ended, hrefused⟩

/-- A task that has made no request about a filter that is not there is refused with its next. -/
theorem Step.refuses_of_absent {n : Nat} {t : Task} (hstep : Step w (.advance n) w') (hw : w.Coherent)
    (habsent : w.storage.repository.get? id = none) (ht : w.tasks[n]? = some t)
    (hsought : t.command.sought? = some id) (hnone : w.exchangesOf n = []) : w'.Refuses n := by
  have hstage := hw.each n t ht
  rw [hnone] at hstage
  obtain ⟨s, c, rfl⟩ := hstage.of_nil
  obtain hrefused | ⟨q, t', hserve, hrefused⟩ := Task.refused_of_absent (c := c) hsought habsent s
  · exact hstep.refuses ⟨_, ht, hrefused⟩
  · cases hstep with
    | idle hend =>
      rw [Task.serve?_of_ended (hend _ ht)] at hserve
      cases hserve
    | @served _ u u' q' hu hserve' =>
      rw [ht] at hu
      cases hu
      rw [hserve] at hserve'
      cases hserve'
      exact ⟨t', by rw [tasks_serve (lt_length ht), if_pos rfl], hrefused⟩

/-- What holds in `w'` when the filter was gone in `w`. -/
structure Aftermath (w : Traffic) (id : Uuid) (w' : Traffic) : Prop where
  /-- The filter is still gone. -/
  gone : w'.Gone id
  /-- Whoever went to write it since was refused. -/
  writes : ∃ later, w'.log = w.log ++ later ∧
    ∀ e ∈ later, ∀ g, e.request = .update g → g.id = id → w'.Refuses e.task
  /-- Whoever looked for it since was refused. -/
  lookups : ∀ (n : Nat) (t : Task), w.exchangesOf n = [] → w'.tasks[n]? = some t →
    t.command.sought? = some id → t.Refused ∨ w'.exchangesOf n = []

theorem Aftermath.refl (h : w.Gone id) : w.Aftermath id w :=
  ⟨h, ⟨[], (List.append_nil _).symm, fun _ he => (List.not_mem_nil he).elim⟩,
    fun _ _ hnone _ _ => .inr hnone⟩

/-- A write that comes too late is refused. -/
theorem refuses_of_update {n : Nat} {t t' : Task} {g : SavedFilter} (hw : w.Coherent)
    (habsent : w.storage.repository.get? g.id = none) (ht : w.tasks[n]? = some t)
    (hserve : t.serve? w.storage = some (.update g, t')) : (w.serve n (.update g) t').Refuses n := by
  obtain ⟨s, st₀, user, id, draft, f, -, -, -, rfl⟩ := (hw.each n t ht).of_update hserve
  refine ⟨⟨.update user id draft, .done (.error Service.noFilter)⟩, ?_, _, rfl, rfl⟩
  rw [tasks_serve (lt_length ht), if_pos rfl, Storage.update_of_absent habsent]
  rfl

/-- **What every move keeps** once a filter is gone. -/
theorem Step.aftermath {v : Traffic} (hstep : Step w' move v) (hfresh : v.storage.Fresh)
    (hcoherent : w'.Coherent) (h : w.Aftermath id w') : w.Aftermath id v := by
  refine ⟨hstep.gone hfresh h.gone, ?_, fun n t hnone ht hsought => ?_⟩
  · obtain ⟨later, hlog, hlater⟩ := h.writes
    have hkept : ∀ e ∈ later, ∀ g, e.request = .update g → g.id = id → v.Refuses e.task :=
      fun e he g hg hid => hstep.refuses (hlater e he g hg hid)
    cases hstep with
    | idle | started => exact ⟨later, hlog, hkept⟩
    | @served n t t' q ht hserve =>
      have hlog' : (w'.serve n q t').log = w.log ++ (later ++ [⟨n, q, w'.storage⟩]) := by
        rw [serve, hlog, List.append_assoc]
      refine ⟨_, hlog', fun e he g hg hid => ?_⟩
      obtain he | he := List.mem_append.mp he
      · exact hkept e he g hg hid
      · cases List.mem_singleton.mp he
        cases hg
        exact refuses_of_update hcoherent (hid ▸ h.gone.absent) ht hserve
  · have hmove := hstep
    cases hstep with
    | idle => exact h.lookups n t hnone ht hsought
    | @started s c =>
      obtain ht | ⟨rfl, rfl⟩ := tasks_add ht
      · exact h.lookups n t hnone ht hsought
      · exact .inr hcoherent.exchangesOf_length
    | @served m u u' q hu hserve =>
      by_cases hm : m = n
      · subst hm
        have hsame : t = u' := by
          rw [tasks_serve (lt_length hu), if_pos rfl] at ht
          exact (Option.some.inj ht).symm
        have hu' : u.command.sought? = some id := by
          rw [← Task.command_of_serve? hserve, ← hsame]
          exact hsought
        obtain hrefused | hfirst := h.lookups m u hnone hu hu'
        · rw [Task.serve?_of_ended hrefused.ended] at hserve
          cases hserve
        · obtain ⟨t', ht', hrefused⟩ := hmove.refuses_of_absent hcoherent h.gone.absent hu hu' hfirst
          rw [ht] at ht'
          cases ht'
          exact .inl hrefused
      · rw [tasks_serve (lt_length hu), if_neg hm] at ht
        rw [exchangesOf_serve, if_neg hm]
        exact h.lookups n t hnone ht hsought

/-- **Removed filters stay gone**, and all versions of a filter have one origin. Once a request has
removed a filter, in whatever order the calls go on: it is not stored; whoever goes to write it is told
that there is none; and so is, with its next request or without one, every call of it that had made no
request by then, those that start later among them. -/
theorem removed_filters_stay_gone {st : Storage}
    (hstored : ∀ id f, st.repository.get? id = some f → st.Issued id) {before after : List Move}
    {w w' : Traffic} (hw : run ⟨st, [], []⟩ before = w) (hw' : w.run after = w')
    (hfresh : w'.storage.Fresh) :
    (∀ id, w.Removed id →
        w'.storage.repository.get? id = none ∧
          (∃ later, w'.log = w.log ++ later ∧
            ∀ e ∈ later, ∀ g, e.request = .update g → g.id = id → w'.Refuses e.task) ∧
          ∀ n t, w.exchangesOf n = [] → w'.tasks[n]? = some t → t.command.sought? = some id →
            (w'.step (.advance n)).Refuses n) ∧
      ∀ id f g, w.storage.repository.get? id = some f → w'.storage.repository.get? id = some g →
        f.SameOrigin g := by
  subst hw hw'
  have hlineage := lineage_run hstored ((later_run _ after).fresh hfresh)
  refine ⟨fun id hremoved => ?_, fun id f g hf hg => ?_⟩
  · have h := run_induction_of_fresh
      (P := fun w' => w'.Coherent ∧ (run ⟨st, [], []⟩ before).Aftermath id w')
      (fun hstep hfresh h => ⟨hstep.coherent h.1, hstep.aftermath hfresh h.1 h.2⟩)
      ⟨hlineage.coherent, .refl (hlineage.gone id hremoved)⟩ hfresh
    refine ⟨h.2.gone.absent, h.2.writes, fun n t hnone ht hsought => ?_⟩
    obtain hrefused | hfirst := h.2.lookups n t hnone ht hsought
    · exact (step_cases _ _).refuses ⟨t, ht, hrefused⟩
    · exact (step_cases _ _).refuses_of_absent h.1 h.2.gone.absent ht hsought hfirst
  · rw [← run_append] at hfresh hg
    refine (lineage_run hstored hfresh).sameOrigin f g ?_ (held_of_stored hg) ?_
    · rw [run_append]
      exact held_run hf after
    · rw [Repository.id_of_get? hf, Repository.id_of_get? hg]

/-- An update holds a copy of a filter while another call deletes it. -/
def deletedMeanwhile : List Move :=
  [.start Session.customerService (.create ⟨1, true, false⟩ "Customer" { clauses := decorated }),
    .advance 0,
    .start Session.customerService
      (.update ⟨1, true, false⟩ (.ofNat 0) { name? := some "Adults", clauses := decorated }),
    .advance 1, .start Session.customerService (.delete ⟨1, true, false⟩ (.ofNat 0)), .advance 2,
    .advance 2]

/-- The update goes to write, another filter is made, and the deleted one is looked up. -/
def writtenTooLate : List Move :=
  [.advance 1,
    .start Session.customerService (.create ⟨1, true, false⟩ "Customer" { clauses := decorated }),
    .advance 3,
    .start Session.customerService (.get ⟨1, true, false⟩ (.ofNat 0)), .advance 4]

theorem removed_filters_stay_gone_deleted :
    let w := run ⟨{ stamps := Session.countedStamps }, [], []⟩ deletedMeanwhile
    let w' := w.run writtenTooLate
    w'.storage.Fresh ∧ w.Removed (.ofNat 0) ∧ w'.storage.repository.get? (.ofNat 0) = none ∧
      w'.storage.repository.size = 1 ∧ w'.Refuses 1 ∧ (w'.step (.advance 4)).Refuses 4 := by
  intro w w'
  have hfresh : w'.storage.Fresh := by decide
  have hremoved : w.Removed (.ofNat 0) := ⟨_, by rw [List.mem_iff_getElem?]; exact ⟨3, rfl⟩, rfl, rfl⟩
  obtain ⟨hgone, -⟩ := removed_filters_stay_gone
    (by intro id f hstored; cases hstored)
    (show run ⟨{ stamps := Session.countedStamps }, [], []⟩ deletedMeanwhile = w from rfl)
    (show w.run writtenTooLate = w' from rfl) hfresh
  obtain ⟨habsent, ⟨later, hlog, hlater⟩, hlookup⟩ := hgone _ hremoved
  have hwrite : ∃ e ∈ later, e.task = 1 ∧ ∃ g : SavedFilter, e.request = .update g ∧
      g.id = .ofNat 0 := by
    have hdrop : later = w'.log.drop w.log.length := by rw [hlog, List.drop_left]
    rw [hdrop]
    exact ⟨_, List.mem_cons_self, rfl, _, rfl, rfl⟩
  obtain ⟨e, he, htask, g, hrequest, hid⟩ := hwrite
  refine ⟨hfresh, hremoved, habsent, rfl, ?_, hlookup 4 _ rfl rfl rfl⟩
  rw [← htask]
  exact hlater e he g hrequest hid

end Traffic

end Filterbook

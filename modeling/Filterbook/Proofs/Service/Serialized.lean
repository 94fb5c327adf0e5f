import Filterbook.Proofs.Calendar.Written
import Filterbook.Proofs.Number.Integers
import Filterbook.Proofs.Registry.RoundTrip
import Filterbook.Proofs.Service.Reachable
import Filterbook.Proofs.Text.Identifiers

/-!
# Stored filters in Json

The Json form of a filter writes its identity and its time of creation in one of the forms in which they are
read, and what a clause is about as a text: the path, or the reserved text for a separator. A path that is
the reserved text would come back as a separator. No clause that is read from Json has such a path, and
validation keeps what each clause is about, so none that the service stores has it either.

## What is proved

* `Clause.ofJson?_toJson`, `SavedFilter.Writable.ofJson?_toJson`: what has no such path is read back.
* `SavedFilter.writable_of_ofJson?`, `paths_of_checkedClauses`: what is read and what is stored has none.
* `Session.writable_step`, `Session.writable_run`: nor has any filter that is ever stored.
* `stored_filters_survive`: so filters survive being written and read.
-/

namespace Filterbook

open Json Number Calendar

/-! ### Members -/

namespace Json

/-- A text that is written as `null` when there is none. -/
theorem optional_of_textOrNull {members : List (String × Json)} {name : String} {s? : Option String}
    (h : members.lookup name = some (SavedFilter.textOrNull s?)) :
    optional members name text? = some s? := by
  rw [optional, h]
  cases s? <;> rfl

/-- Items that are read one by one. -/
theorem exists_of_mem_list? {α : Type} {read? : Json → Option α} {j : Json} {items : List α}
    (h : list? read? j = some items) {a : α} (ha : a ∈ items) : ∃ v, read? v = some a := by
  cases j with
  | arr vs =>
    change vs.mapM read? = some items at h
    induction vs generalizing items with
    | nil =>
      obtain rfl := Option.some.inj h
      cases ha
    | cons v vs ih =>
      simp only [List.mapM_cons, Option.bind_eq_bind, Option.bind_eq_some_iff, Option.pure_def,
        Option.some.injEq] at h
      obtain ⟨b, hb, bs, hbs, rfl⟩ := h
      rcases List.mem_cons.mp ha with rfl | ha
      · exact ⟨v, hb⟩
      · exact ih ha hbs
  | _ => cases h

/-- A list that may be left out is read one by one. -/
theorem exists_of_mem_defaulted {α : Type} {read? : Json → Option α} {ms : List (String × Json)}
    {name : String} {items : List α} (h : defaulted ms name (list? read?) [] = some items) {a : α}
    (ha : a ∈ items) : ∃ v, read? v = some a := by
  unfold defaulted at h
  split at h
  · obtain rfl := Option.some.inj h
    cases ha
  · exact exists_of_mem_list? h ha

theorem inInt64_of_int64? {j : Json} {n : Int} (h : j.int64? = some n) : inInt64 n = true := by
  unfold int64? at h
  split at h
  · obtain ⟨hn, heq⟩ := Option.ite_none_right_eq_some.mp h
    exact Option.some.inj heq ▸ hn
  · cases h

theorem inWord_of_inInt64 {n : Int} (h : inInt64 n = true) : InWord n := by
  have hlimit : (twoTo 63 : Int) ≤ twoTo 64 := by decide
  obtain ⟨hleast, hlt⟩ := inInt64_iff.mp h
  exact ⟨hleast, hlt.trans_le hlimit⟩

theorem readable_textOrNull {depth : Nat} (s? : Option String) :
    Readable depth (SavedFilter.textOrNull s?) := by
  cases s? with
  | none => exact .null
  | some s => exact .str s

end Json

/-! ### Clauses -/

namespace ClauseField

/-- No text is read as a path that is the reserved text. -/
theorem ofText_ne (s : String) : ofText s ≠ .path separatorText := by
  unfold ofText
  split
  · exact nofun
  · next hs => exact fun h => hs (ClauseField.path.inj h)

theorem ofText_text {f : ClauseField} (h : f ≠ .path separatorText) : ofText f.text = f := by
  cases f with
  | separator => exact if_pos rfl
  | path p => exact if_neg fun hp => h (congrArg ClauseField.path hp)

end ClauseField

/-- No clause has the reserved text for its path. -/
def PathsApart (clauses : List Clause) : Prop := ∀ c ∈ clauses, c.field ≠ .path separatorText

namespace Clause

theorem field_ne_of_ofMembers? {ms : List (String × Json)} {c : Clause} (h : ofMembers? ms = some c) :
    c.field ≠ .path separatorText := by
  simp only [ofMembers?, Option.bind_eq_bind, Option.bind_eq_some_iff, Option.some.injEq] at h
  obtain ⟨field, -, _, -, _, -, _, -, rfl⟩ := h
  exact ClauseField.ofText_ne field

theorem field_ne_of_ofJson? {j : Json} {c : Clause} (h : ofJson? j = some c) :
    c.field ≠ .path separatorText := by
  obtain ⟨ms, -, hms⟩ := Option.bind_eq_some_iff.mp h
  exact field_ne_of_ofMembers? hms

/-- The members that are written of a clause, as its reader finds them. -/
theorem members_toJson (c : Clause) :
    ∃ known, Shape.members? ⟨memberNames, 1, false⟩ c.toJson = some known ∧
      known.lookup "field" = some (.str c.field.text) ∧
      known.lookup "operator" = some (SavedFilter.textOrNull c.operator?) ∧
      known.lookup "value" = some (.str c.value) ∧ known.lookup "negate" = some (.bool c.negate) := by
  obtain ⟨field, operator?, value, negate⟩ := c
  cases operator? <;> exact ⟨_, rfl, rfl, rfl, rfl, rfl⟩

/-- **A clause is read back from its Json form**, unless its path is the reserved text. -/
theorem ofJson?_toJson {c : Clause} (h : c.field ≠ .path separatorText) : ofJson? c.toJson = some c := by
  obtain ⟨known, hknown, hfield, hoperator, hvalue, hnegate⟩ := c.members_toJson
  rw [ofJson?, hknown]
  simp only [Option.bind_eq_bind, Option.bind_some, ofMembers?, required_of_lookup hfield, text?,
    optional_of_textOrNull hoperator, defaulted_of_lookup hvalue, defaulted_of_lookup hnegate, bool?,
    ClauseField.ofText_text h]

variable {depth : Nat}

theorem readable (c : Clause) : Readable (depth + 1) c.toJson := by
  have hoperator : Readable depth ((c.operator?.map Json.str).getD .null) := by
    cases c.operator? with
    | none => exact .null
    | some s => exact .str s
  exact .obj (List.forall_mem_cons.mpr ⟨.str _, List.forall_mem_cons.mpr ⟨hoperator,
    List.forall_mem_cons.mpr ⟨.str _, List.forall_mem_cons.mpr ⟨.bool _, List.forall_mem_nil _⟩⟩⟩⟩)

end Clause

/-! ### Filters -/

namespace SavedFilter

/-- A filter whose Json form says what it is: the number of its owner is one of 64 bits, and no path is the
reserved text. -/
structure Writable (f : SavedFilter) : Prop where
  /-- The number of the owner is one of 64 bits. -/
  owner : inInt64 f.owner = true
  /-- No path is the reserved text. -/
  paths : PathsApart f.clauses

/-- The members that are written of a filter, as its reader finds them. -/
theorem members_toJson (f : SavedFilter) :
    ∃ known, Shape.members? ⟨memberNames, 6, false⟩ f.toJson = some known ∧
      known.lookup "id" = some (.str f.id.text) ∧
      known.lookup "name" = some (textOrNull f.name?) ∧
      known.lookup "description" = some (textOrNull f.description?) ∧
      known.lookup "target" = some (.str f.target) ∧ known.lookup "owner" = some (.int f.owner) ∧
      known.lookup "created" = some (.str f.created.instantText) ∧
      known.lookup "ephemeral" = some (.bool f.ephemeral) ∧
      known.lookup "clauses" = some (.arr (f.clauses.map Clause.toJson)) :=
  ⟨_, rfl, rfl, rfl, rfl, rfl, rfl, rfl, rfl, rfl⟩

/-- **A filter is read back from its Json form.** -/
theorem Writable.ofJson?_toJson {f : SavedFilter} (h : f.Writable) : ofJson? f.toJson = some f := by
  obtain ⟨known, hknown, hid, hname, hdescription, htarget, howner, hcreated, hephemeral, hclauses⟩ :=
    f.members_toJson
  have hread : list? Clause.ofJson? (.arr (f.clauses.map Clause.toJson)) = some f.clauses :=
    list?_map_of_mem fun c hc => Clause.ofJson?_toJson (h.paths c hc)
  have hword : int64? (.int f.owner) = some f.owner := if_pos h.owner
  rw [ofJson?, hknown]
  simp only [Option.bind_eq_bind, Option.bind_some, required_of_lookup hid, idOfJson?, text?, f.id.read?_text,
    optional_of_textOrNull hname, optional_of_textOrNull hdescription, required_of_lookup htarget,
    required_of_lookup howner, hword, required_of_lookup hcreated, readInstant?_instantText,
    defaulted_of_lookup hephemeral, bool?, defaulted_of_lookup hclauses, hread]

theorem Writable.readable {f : SavedFilter} (h : f.Writable) {depth : Nat} :
    Readable (depth + 3) f.toJson := by
  refine .obj (List.forall_mem_cons.mpr ⟨.str _, List.forall_mem_cons.mpr ⟨readable_textOrNull _,
    List.forall_mem_cons.mpr ⟨readable_textOrNull _, List.forall_mem_cons.mpr ⟨.str _,
      List.forall_mem_cons.mpr ⟨.int (inWord_of_inInt64 h.owner), List.forall_mem_cons.mpr ⟨.str _,
        List.forall_mem_cons.mpr ⟨.bool _, List.forall_mem_cons.mpr ⟨readable_list Clause.readable _,
          List.forall_mem_nil _⟩⟩⟩⟩⟩⟩⟩⟩)

/-- **A filter that is read is writable.** -/
theorem writable_of_ofJson? {j : Json} {f : SavedFilter} (h : ofJson? j = some f) : f.Writable := by
  simp only [ofJson?, Option.bind_eq_bind, Option.bind_eq_some_iff, Option.some.injEq] at h
  obtain ⟨ms, -, id, -, name?, -, description?, -, target, -, owner, howner, created, -, ephemeral, -,
    clauses, hclauses, rfl⟩ := h
  obtain ⟨_, -, howner⟩ := Option.bind_eq_some_iff.mp howner
  refine ⟨inInt64_of_int64? howner, fun c hc => ?_⟩
  obtain ⟨v, hv⟩ := exists_of_mem_defaulted hclauses hc
  exact Clause.field_ne_of_ofJson? hv

/-- A filter survives being written as Json and read again. -/
structure Survives (f : SavedFilter) : Prop where
  /-- It is read back from its Json form. -/
  value : ofJson? f.toJson = some f
  /-- It is read back from the text of this form. -/
  text : (Json.read? f.toJson.text).bind ofJson? = some f
  /-- The reserved text stands for the separators and for nothing else. -/
  marks : ∀ c ∈ f.clauses, c.field.text = separatorText ↔ c.isSeparator = true

theorem Writable.survives {f : SavedFilter} (h : f.Writable) : f.Survives where
  value := h.ofJson?_toJson
  text := by
    have hread : Json.read? f.toJson.text = some f.toJson := read?_text h.readable
    rw [hread, Option.bind_some, h.ofJson?_toJson]
  marks c hc := by
    have hpath := h.paths c hc
    rw [Clause.isSeparator_iff]
    cases hfield : c.field with
    | separator => simp [ClauseField.text]
    | path p =>
      rw [hfield] at hpath
      simpa [ClauseField.text] using hpath

end SavedFilter

/-! ### What the service stores -/

/-- A draft that is read from Json. -/
def FilterDraft.IsRead (draft : FilterDraft) : Prop := ∃ j, ofJson? j = some draft

theorem FilterDraft.IsRead.field_ne {draft : FilterDraft} (h : draft.IsRead) {q : ClauseRequest}
    (hq : q ∈ draft.clauses) : q.clause.field ≠ .path separatorText := by
  obtain ⟨j, h⟩ := h
  simp only [ofJson?, Option.bind_eq_bind, Option.bind_eq_some_iff, Option.some.injEq] at h
  obtain ⟨ms, -, _, -, _, -, clauses, hclauses, _, -, rfl⟩ := h
  obtain ⟨v, hv⟩ := exists_of_mem_defaulted hclauses hq
  unfold ClauseRequest.ofJson? at hv
  split at hv
  · simp only [Option.bind_eq_bind, Option.bind_eq_some_iff, Option.some.injEq] at hv
    obtain ⟨ms, -, c, hc, _, -, rfl⟩ := hv
    exact Clause.field_ne_of_ofMembers? hc
  · cases hv

/-- A clause that passes is stored as what it is about. -/
theorem field_toClause {r : Registry} {model : String} {catalog : Catalog} {c : Clause} {checked : Checked}
    (h : validateClause r model catalog c = .ok checked) : checked.toClause.field = c.field := by
  rcases validateClause_cases h with ⟨hsep, rfl⟩ | ⟨path, _, _, _, _, hpath, -, -, -, rfl⟩
  · exact hsep.symm
  · exact hpath.symm

/-- **What is stored is about what was submitted**, clause by clause. -/
theorem map_field_of_checkedClauses {s : Service} {target : String} {requests : List ClauseRequest}
    {clauses : List Clause} (h : s.checkedClauses target requests = .ok clauses) :
    clauses.map (·.field) = (keptClauses requests).map (·.field) := by
  unfold Service.checkedClauses at h
  split at h
  · cases h
  · next checked hchecked =>
    obtain rfl := Except.ok.inj h
    have hpasses := (validateClauses_eq_ok_iff.mp hchecked).1
    rw [← List.forall₂_eq_eq_eq, List.map_map, List.forall₂_map_left_iff, List.forall₂_map_right_iff]
    exact hpasses.flip.imp fun _ _ => field_toClause

theorem paths_of_checkedClauses {s : Service} {target : String} {draft : FilterDraft}
    (hdraft : draft.IsRead) {clauses : List Clause}
    (h : s.checkedClauses target draft.clauses = .ok clauses) : PathsApart clauses := by
  intro c hc
  have hmem : c.field ∈ (keptClauses draft.clauses).map (·.field) :=
    map_field_of_checkedClauses h ▸ List.mem_map_of_mem hc
  obtain ⟨d, hd, hfield⟩ := List.mem_map.mp hmem
  obtain ⟨q, hq, rfl⟩ := List.mem_map.mp hd
  exact hfield ▸ hdraft.field_ne (List.mem_of_mem_filter hq)

theorem writable_of_newFilter {s : Service} {user : User} {target : String} {draft : FilterDraft}
    {new : NewFilter} (hdraft : draft.IsRead) (huser : inInt64 user.id = true)
    (h : s.newFilter user target draft = .ok new) (stamp : Stamp) : (new.stamped stamp).Writable := by
  obtain ⟨-, howner, hchecked⟩ := newFilter_eq_ok h
  have hword : inInt64 new.owner = true := by rwa [howner]
  exact ⟨hword, paths_of_checkedClauses hdraft hchecked⟩

theorem writable_of_edited {s : Service} {f g : SavedFilter} {draft : FilterDraft} (hdraft : draft.IsRead)
    (howner : inInt64 f.owner = true) (h : s.edited f draft = .ok g) : g.Writable := by
  obtain ⟨clauses, hchecked, rfl⟩ := Service.edited_eq_ok s h
  exact ⟨howner, paths_of_checkedClauses hdraft hchecked⟩

/-- **The filter that is made is writable**, whatever else is stored. -/
theorem writable_of_create {s : Service} {user : User} {st st' : Storage} {target : String}
    {draft : FilterDraft} {id : Uuid} (hdraft : draft.IsRead) (huser : inInt64 user.id = true)
    (h : (s.create user target draft).run st = (.ok id, st')) :
    ∃ f, st'.repository.get? id = some f ∧ f.Writable := by
  rw [Service.create_run] at h
  split at h
  · cases (Prod.mk.inj h).1
  · next new hnew =>
    cases hstamp : st.repository.get? st.nextStamp.id with
    | none =>
      rw [Storage.insert_of_absent hstamp] at h
      obtain ⟨hid, rfl⟩ := Prod.mk.inj h
      obtain rfl := Except.ok.inj hid
      exact ⟨new.stamped st.nextStamp, Repository.get?_put_self st.repository (new.stamped st.nextStamp),
        writable_of_newFilter hdraft huser hnew _⟩
    | some g =>
      rw [Storage.insert_of_present hstamp] at h
      cases (Prod.mk.inj h).1

/-- **The filter that an update stores is writable**, whatever it was before. -/
theorem writable_of_update {s : Service} {user : User} {st st' : Storage} {id : Uuid} {draft : FilterDraft}
    {g : SavedFilter} (hdraft : draft.IsRead) (howner : inInt64 g.owner = true)
    (h : (s.update user id draft).run st = (.ok g, st')) :
    st'.repository.get? id = some g ∧ g.Writable := by
  rw [Service.update_run] at h
  split at h
  · cases (Prod.mk.inj h).1
  · next g' hg =>
    obtain ⟨heq, rfl⟩ := Prod.mk.inj h
    obtain rfl := Except.ok.inj heq
    cases hp : s.permitted user .change (st.repository.get? id) with
    | error e =>
      rw [hp] at hg
      cases hg
    | ok f =>
      rw [hp] at hg
      have hedited : s.edited f draft = .ok g' := hg
      obtain ⟨hf, -⟩ := Service.permitted_eq_ok s user hp
      obtain ⟨clauses, -, hsame⟩ := Service.edited_eq_ok s hedited
      have hfid : f.id = id := Repository.id_of_get? hf
      have hid : g'.id = id := (congrArg SavedFilter.id hsame).trans hfid
      have hfowner : inInt64 f.owner = true := by rwa [hsame] at howner
      refine ⟨?_, writable_of_edited hdraft hfowner hedited⟩
      rw [← hid]
      exact Repository.get?_put_self st.repository g'

/-! ### Sessions -/

/-- What a command brings with it was read: a draft from Json, and the number of a user from 64 bits. -/
def Command.IsRead : Command → Prop
  | .create user _ draft => inInt64 user.id = true ∧ draft.IsRead
  | .update _ _ draft => draft.IsRead
  | _ => True

namespace Session

/-- Every stored filter is writable. -/
def Writable (w : Session) : Prop := ∀ id f, w.stored? id = some f → f.Writable

variable {w : Session}

/-- **One event leaves every stored filter writable.** -/
theorem writable_step (h : w.Writable) {e : Event} (he : ∀ c, e = .command c → c.IsRead) :
    (w.step e).Writable := by
  obtain ⟨-, -, ⟨c, rfl, heffect⟩ | hsame⟩ := step_cases w e
  · have hc := he c rfl
    unfold Writable stored? at h ⊢
    generalize (w.step (.command c)).storage = st' at heffect ⊢
    cases heffect with
    | kept | wasted => exact h
    | added hnew habsent =>
      intro id f hf
      rw [Storage.withRepository, Repository.get?_put] at hf
      split_ifs at hf
      · exact Option.some.inj hf ▸ writable_of_newFilter hc.2 hc.1 hnew _
      · exact h id f hf
    | replaced hf₀ _ hg =>
      intro id f hf
      rw [Storage.withRepository, Repository.get?_put] at hf
      split_ifs at hf
      · exact Option.some.inj hf ▸ writable_of_edited hc (h _ _ hf₀).owner hg
      · exact h id f hf
    | deleted | discarded =>
      intro id f hf
      rw [Storage.without, Storage.withRepository, Repository.get?_erase] at hf
      split_ifs at hf
      exact h id f hf
  · unfold Writable stored? at h ⊢
    rwa [hsame]

/-- **Every stored filter of a run is writable.** -/
theorem writable_run (h : w.Writable) {events : List Event}
    (hevents : ∀ c, .command c ∈ events → c.IsRead) : (w.run events).Writable := by
  induction events generalizing w with
  | nil => exact h
  | cons e events ih =>
    refine ih (writable_step h fun c hc => hevents c (hc ▸ List.mem_cons_self ..)) fun c hc => ?_
    exact hevents c (List.mem_cons_of_mem e hc)

end Session

/-- **Stored filters survive.** A filter that is read from Json, and one that is stored for a draft that was
read from Json, is the same after it was written as Json and read again, with its separators where the
reserved text stands. So is everything that is ever stored by a service that started with filters read from
Json, or with none. -/
theorem stored_filters_survive :
    (∀ j f, SavedFilter.ofJson? j = some f → f.Survives) ∧
      (∀ (s : Service) (user : User) (st st' : Storage) (draft : FilterDraft), draft.IsRead →
        (∀ target id, inInt64 user.id = true → (s.create user target draft).run st = (.ok id, st') →
            ∃ f, st'.repository.get? id = some f ∧ f.Survives ∧ PathsApart f.clauses) ∧
          ∀ id g, inInt64 g.owner = true → (s.update user id draft).run st = (.ok g, st') →
            st'.repository.get? id = some g ∧ g.Survives ∧ PathsApart g.clauses) ∧
      ∀ (w : Session) (events : List Event),
        (∀ id f, w.stored? id = some f → ∃ j, SavedFilter.ofJson? j = some f) →
          (∀ c, .command c ∈ events → c.IsRead) →
            ∀ id f, (w.run events).stored? id = some f → f.Survives ∧ PathsApart f.clauses := by
  refine ⟨fun j f h => (SavedFilter.writable_of_ofJson? h).survives, fun s user st st' draft hdraft => ?_,
    fun w events hw hevents id f hf => ?_⟩
  · refine ⟨fun target id huser h => ?_, fun id g howner h => ?_⟩
    · obtain ⟨f, hf, hwritable⟩ := writable_of_create hdraft huser h
      exact ⟨f, hf, hwritable.survives, hwritable.paths⟩
    · obtain ⟨hg, hwritable⟩ := writable_of_update hdraft howner h
      exact ⟨hg, hwritable.survives, hwritable.paths⟩
  · have hstart : w.Writable := fun id f hf => by
      obtain ⟨j, hj⟩ := hw id f hf
      exact SavedFilter.writable_of_ofJson? hj
    have hwritable := Session.writable_run hstart hevents id f hf
    exact ⟨hwritable.survives, hwritable.paths⟩

/-- A filter as it may be written by hand: the identity as a name, the time in a year with a sign, in a leap
second and with a zone. -/
def handwritten : Json :=
  .obj [("id", .str "urn:uuid:F47AC10B-58CC-4372-A567-0E02B2C3D479"), ("target", .str "Customer"),
    ("owner", .int 7), ("created", .str "+12016-12-31 23:59:60.5 +00:00"),
    ("clauses", .arr [.obj [("field", .str "name"), ("operator", .null)], .obj [("field", .str "_OR")],
      .obj [("field", .str "age"), ("value", .str "18"), ("negate", .bool true)]])]

/-- A draft with a separator, as it is submitted. -/
def submitted : Json :=
  .obj [("name", .str "Ann or adult"), ("clauses", .arr [
    .obj [("field", .str "name"), ("operator", .str "eq"), ("value", .str "Ann")],
    .obj [("field", .str "_OR"), ("value", .str "ignored")],
    .obj [("field", .str "age"), ("operator", .str "gte"), ("value", .str "18")]])]

/-- The draft that is read of it. -/
def annOrAdult : FilterDraft where
  name? := some "Ann or adult"
  clauses := [.keep { field := .path "name", operator? := some "eq", value := "Ann" },
    .keep { field := .separator, value := "ignored" },
    .keep { field := .path "age", operator? := some "gte", value := "18" }]

/-- A superuser. -/
def superuser : User := ⟨1, true, false⟩

open Session in
theorem stored_filters_survive_annOrAdult :
    (∃ f, SavedFilter.ofJson? handwritten = some f ∧ f.Survives) ∧
      FilterDraft.ofJson? submitted = some annOrAdult ∧
      ∃ st st' f g,
        (customerService.create superuser "Customer" annOrAdult).run { stamps := countedStamps } =
            (.ok (Uuid.ofNat 0), st) ∧
          st.repository.get? (Uuid.ofNat 0) = some f ∧
          f.clauses.map Clause.isSeparator = [false, true, false] ∧ f.Survives ∧
          (customerService.update superuser (Uuid.ofNat 0) annOrAdult).run st = (.ok g, st') ∧
          g.Survives ∧
          ((start customerService countedStamps).run
            [.command (.create superuser "Customer" annOrAdult)]).stored? (Uuid.ofNat 0) = some f ∧
          PathsApart f.clauses := by
  obtain ⟨hread, hstored, hrun⟩ := stored_filters_survive
  obtain ⟨h, hh⟩ : ∃ h, SavedFilter.ofJson? handwritten = some h := ⟨_, rfl⟩
  have hdraft : FilterDraft.ofJson? submitted = some annOrAdult := rfl
  have hisRead : annOrAdult.IsRead := ⟨submitted, hdraft⟩
  obtain ⟨st, st', f, g, hcreate, hf, hmarks, hupdate, howner, hsession⟩ : ∃ st st' f g,
      (customerService.create superuser "Customer" annOrAdult).run { stamps := countedStamps } =
          (.ok (Uuid.ofNat 0), st) ∧
        st.repository.get? (Uuid.ofNat 0) = some f ∧
        f.clauses.map Clause.isSeparator = [false, true, false] ∧
        (customerService.update superuser (Uuid.ofNat 0) annOrAdult).run st = (.ok g, st') ∧
        inInt64 g.owner = true ∧
        ((start customerService countedStamps).run
          [.command (.create superuser "Customer" annOrAdult)]).stored? (Uuid.ofNat 0) = some f :=
    ⟨_, _, _, _, rfl, rfl, rfl, rfl, rfl, rfl⟩
  obtain ⟨f', hf', hsurvives, -⟩ :=
    (hstored customerService superuser { stamps := countedStamps } st annOrAdult hisRead).1 _ _ rfl hcreate
  obtain rfl : f = f' := Option.some.inj (hf.symm.trans hf')
  have hgain := (hstored customerService superuser st st' annOrAdult hisRead).2 _ g howner hupdate
  have hpaths := hrun (start customerService countedStamps) [.command (.create superuser "Customer" annOrAdult)]
    (fun id f h => by cases h) (fun c hc => by
      obtain rfl := Event.command.inj (List.mem_singleton.mp hc)
      exact ⟨rfl, hisRead⟩) _ f hsession
  exact ⟨⟨h, hh, hread _ h hh⟩, hdraft, st, st', f, g, hcreate, hf, hmarks, hsurvives, hupdate, hgain.2.1,
    hsession, hpaths.2⟩

end Filterbook

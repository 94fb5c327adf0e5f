import Filterbook.Proofs.Access.Visibility
import Filterbook.Proofs.Service.Reachable

/-!
# Listings, and what can be done with what they show

There are two listings: the menu of filters for a model, from which a user applies one, and the listing
of the administration, from which staff open one. Both are a query over all stored filters, cut down to
those that are visible to the user; applying and opening look one filter up by its identity and decide
about it alone. This module compares the two ways.

## What is proved

* `Repository.mem_list_iff`, `Repository.nodup_ids_list`: a query lists every stored filter that it
  admits, once.
* `apply_notFound_iff`: an application answers that there is no such filter exactly when the query of the
  menu does not admit one. No later failure looks the same.
* `menu_agrees_with_apply`: a menu offers, once each, exactly the filters whose application does not
  answer so.
* `listed_can_be_viewed_iff`: the administration lists what is visible, whether or not the user still has
  access to the records. With that access every listed filter can be opened, and without it none:
  `listed_without_access` is a session in which a user's own filter is listed and cannot be opened.
-/

namespace Filterbook

/-! ### What a query lists -/

namespace Repository

variable {r : Repository} {q : ListQuery} {f : SavedFilter} {id : Uuid}

theorem mem_list_iff : f ∈ r.list q ↔ r.get? f.id = some f ∧ q.admits f = true := by
  rw [list, ListingOrder.sort, (List.mergeSort_perm _ _).mem_iff, List.mem_filter]
  refine and_congr_left fun _ => ⟨Roster.get?_of_mem, Roster.mem_of_get?⟩

/-- What is found under an identity is what is listed with that identity. -/
theorem find?_eq_some_iff : r.find? q id = some f ↔ f ∈ r.list q ∧ f.id = id := by
  rw [mem_list_iff]
  constructor
  · intro h
    obtain ⟨hget, hadmits⟩ := get?_of_find? h
    have hid := id_of_get? hget
    exact ⟨⟨hid ▸ hget, hadmits⟩, hid⟩
  · rintro ⟨⟨hget, hadmits⟩, rfl⟩
    rw [find?, hget, Option.filter_some, if_pos hadmits]

/-- No filter is listed twice. -/
theorem nodup_ids_list (r : Repository) (q : ListQuery) : ((r.list q).map SavedFilter.id).Nodup := by
  have hfiltered : ((r.filters.entries.filter q.admits).map SavedFilter.id).Nodup :=
    r.filters.nodup.sublist (List.filter_sublist.map SavedFilter.id)
  exact ((List.mergeSort_perm _ _).map SavedFilter.id).nodup_iff.mpr hfiltered

theorem mem_ids_list_iff : id ∈ (r.list q).map SavedFilter.id ↔ r.find? q id ≠ none := by
  rw [List.mem_map, Option.ne_none_iff_exists']
  exact exists_congr fun f => find?_eq_some_iff.symm

end Repository

/-! ### Answers that there is no such filter -/

/-- The answer is that there is no such record for the user. -/
def NotFound {α : Type} (answer : Except QueryError α) : Prop :=
  ∃ e, answer = .error e ∧ e.code = .recordNotFound

theorem notFound_error {α : Type} {e : QueryError} :
    NotFound (.error e : Except QueryError α) ↔ e.code = .recordNotFound := by
  simp [NotFound]

theorem not_notFound_ok {α : Type} (a : α) : ¬ NotFound (.ok a : Except QueryError α) := by
  rintro ⟨e, h, -⟩
  cases h

/-- A failure of the registry is never reported as a record that is not there. -/
theorem QueryError.code_ofRegistry (e : RegistryError) : (ofRegistry e).code ≠ .recordNotFound := by
  cases e <;> exact nofun

theorem SavedFilter.code_of_compile_error {r : Registry} {catalog : Catalog} {f : SavedFilter}
    {e : QueryError} (h : f.compile r catalog = .error e) : e.code ≠ .recordNotFound := by
  unfold SavedFilter.compile at h
  split at h
  · cases h
    exact QueryError.code_ofRegistry _
  · split at h
    · cases h
      exact nofun
    · cases h

namespace Service

variable {s : Service} {user : User} {st : Storage} {target : String} {id : Uuid}

/-- Once a filter is found, nothing that goes wrong later looks like a filter that is not there. -/
theorem not_notFound_rowsOf (s : Service) (target : String) (f : SavedFilter) :
    ¬ NotFound (s.rowsOf target f) := by
  rintro ⟨e, h, hcode⟩
  unfold rowsOf at h
  cases hcompile : f.compile s.registry s.catalog with
  | error e' =>
    rw [hcompile] at h
    cases h
    exact SavedFilter.code_of_compile_error hcompile hcode
  | ok compiled =>
    rw [hcompile] at h
    simp only [Except.bind, Records.select] at h
    split at h
    · cases h
      cases hcode
    · cases h

/-! ### The menu -/

/-- **When an application finds nothing**: the user has no access to the records, or the query of the
menu admits no filter with the identity. -/
theorem apply_notFound_iff :
    NotFound ((s.apply user target id).run st).1 ↔
      (s.access.reaches user target = true →
        st.repository.find? (s.visibleQuery user target) id = none) := by
  rw [apply_run]
  cases s.access.reaches user target with
  | false => simp [notFound_error, noFilterFor, noFilter, QueryError.notFound, QueryError.code,
      QueryCause.code]
  | true =>
    simp only [if_true, forall_const]
    cases st.repository.find? (s.visibleQuery user target) id with
    | none => exact iff_of_true ⟨_, rfl, rfl⟩ rfl
    | some f =>
      refine iff_of_false ?_ (by simp)
      simp only
      have hrows := not_notFound_rowsOf s target f
      cases hr : s.rowsOf target f with
      | error e =>
        rw [hr] at hrows
        rwa [notFound_error] at hrows ⊢
      | ok rows =>
        simp only
        split <;> exact not_notFound_ok _

theorem mem_menu_iff :
    id ∈ ((s.lookups user target).run st).1.map FilterLookup.id ↔
      s.access.reaches user target = true ∧
        st.repository.find? (s.visibleQuery user target) id ≠ none := by
  rw [lookups_run]
  cases s.access.reaches user target with
  | false => simp
  | true =>
    simp only [if_true, true_and, List.map_map]
    exact Repository.mem_ids_list_iff

theorem nodup_menu (s : Service) (user : User) (target : String) (st : Storage) :
    (((s.lookups user target).run st).1.map FilterLookup.id).Nodup := by
  rw [lookups_run]
  split
  · rw [List.map_map]
    exact Repository.nodup_ids_list _ _
  · exact List.nodup_nil

end Service

namespace Session

/-- **The menu and the application agree**: at every moment, for every user and every model, the menu
offers a filter exactly when its application does not answer that there is no such filter, and it offers
no filter twice. -/
theorem menu_agrees_with_apply (w : Session) (user : User) (target : String) :
    (∀ id, id ∈ (w.answer (.lookups user target)).map FilterLookup.id ↔
        ¬ NotFound (w.answer (.apply user target id))) ∧
      ((w.answer (.lookups user target)).map FilterLookup.id).Nodup := by
  refine ⟨fun id => ?_, Service.nodup_menu w.service user target w.storage⟩
  have hmenu : id ∈ (w.answer (.lookups user target)).map FilterLookup.id ↔
      w.service.access.reaches user target = true ∧
        w.storage.repository.find? (w.service.visibleQuery user target) id ≠ none :=
    Service.mem_menu_iff
  have happly : NotFound (w.answer (.apply user target id)) ↔
      (w.service.access.reaches user target = true →
        w.storage.repository.find? (w.service.visibleQuery user target) id = none) :=
    Service.apply_notFound_iff
  rw [hmenu, happly, Classical.not_imp]

/-! ### The listing of the administration -/

/-- Who may reach the administration is listed every stored filter that the query admits. -/
theorem answer_list (w : Session) (user : User) (options : ListOptions)
    (h : w.service.access.canAdminister user = true) :
    ∃ listed, w.answer (.list user options) = .ok listed ∧ ∀ f, f ∈ listed ↔
      w.stored? f.id = some f ∧ (w.service.adminQuery user options).admits f = true := by
  refine ⟨w.storage.repository.list (w.service.adminQuery user options), ?_, fun _ =>
    Repository.mem_list_iff⟩
  unfold answer
  rw [Service.call, Service.list_run, if_pos h]

/-- **What the administration lists can be opened by who has access to the records**: for staff who are
no superusers, each listed filter may be seen exactly when its records may be, and looking it up gives
the filter in that case, and otherwise the answer that there is none. -/
theorem listed_can_be_viewed_iff (w : Session) (user : User) (hstaff : user.isStaff = true)
    (hplain : user.isSuperuser = false) (options : ListOptions) :
    ∃ listed, w.answer (.list user options) = .ok listed ∧ ∀ f ∈ listed,
      (w.service.access.can user .view (some f) = true ↔
          w.service.access.reaches user f.target = true) ∧
        w.answer (.get user f.id) =
          if w.service.access.reaches user f.target then .ok f else .error Service.noFilter := by
  have hadmin : w.service.access.canAdminister user = true := by
    rw [Access.canAdminister, hstaff, Bool.true_or]
  obtain ⟨listed, hanswer, hlisted⟩ := answer_list w user options hadmin
  refine ⟨listed, hanswer, fun f hf => ?_⟩
  obtain ⟨hstored, hadmits⟩ := (hlisted f).mp hf
  have hvisible : (w.service.access.visibility user).contains f = true := by
    simp only [ListQuery.admits, Service.adminQuery, hplain, Bool.and_eq_true] at hadmits
    exact hadmits.1.1
  have hcan : w.service.access.can user .view (some f) =
      w.service.access.reaches user f.target := by
    rw [Access.can_view_eq, hplain, hvisible, Bool.false_or, Bool.and_true]
  refine ⟨by rw [hcan], ?_⟩
  unfold stored? at hstored
  unfold answer
  rw [Service.call, Service.get_run, hstored]
  simp only [Service.permitted, hcan]

/-- A member of staff. -/
def clerk : User := ⟨1, false, true⟩

/-- The filter that the clerk makes. -/
def clerksFilter : SavedFilter where
  id := .ofNat 0
  target := "Customer"
  owner := clerk.id
  created := (countedStamps 0).created
  clauses := [{ field := .path "name", operator? := some "exact", value := "Ann" }]

/-- The clerk is given access to customers and makes a filter. -/
def authoring : List Event :=
  [.grant ⟨clerk.id, "Customer", .view⟩,
    .command (.create clerk "Customer" { clauses := clerksFilter.clauses.map .keep })]

/-- The same, and then the access is withdrawn. -/
def dismissed : List Event := authoring ++ [.revoke ⟨clerk.id, "Customer", .view⟩]

theorem listed_can_be_viewed_iff_author :
    ∃ listed, ((start customerService countedStamps).run authoring).answer (.list clerk {}) =
        .ok listed ∧
      clerksFilter ∈ listed ∧
        ((start customerService countedStamps).run authoring).answer (.get clerk clerksFilter.id) =
          .ok clerksFilter := by
  obtain ⟨listed, hanswer, hall⟩ := listed_can_be_viewed_iff
    ((start customerService countedStamps).run authoring) clerk rfl rfl {}
  obtain ⟨listed', hanswer', hlisted⟩ := answer_list
    ((start customerService countedStamps).run authoring) clerk {} rfl
  obtain rfl : listed = listed' := Except.ok.inj (hanswer.symm.trans hanswer')
  have hmem : clerksFilter ∈ listed := (hlisted clerksFilter).mpr ⟨rfl, rfl⟩
  exact ⟨listed, hanswer, hmem, (hall clerksFilter hmem).2⟩

/-- Without access to the records, a user's own filter is listed and cannot be opened. -/
theorem listed_without_access :
    ∃ listed, ((start customerService countedStamps).run dismissed).answer (.list clerk {}) =
        .ok listed ∧
      clerksFilter ∈ listed ∧
        ((start customerService countedStamps).run dismissed).service.access.can clerk .view
            (some clerksFilter) = false ∧
          ((start customerService countedStamps).run dismissed).answer (.get clerk clerksFilter.id) =
            .error Service.noFilter := by
  obtain ⟨listed, hanswer, hlisted⟩ := answer_list
    ((start customerService countedStamps).run dismissed) clerk {} rfl
  exact ⟨listed, hanswer, (hlisted clerksFilter).mpr ⟨rfl, rfl⟩, rfl, rfl⟩

end Session

end Filterbook

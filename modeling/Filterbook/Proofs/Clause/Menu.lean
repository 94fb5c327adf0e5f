import Filterbook.FieldData
import Filterbook.Proofs.Clause.Stored
import Filterbook.Proofs.Registry.Paths

/-!
# What a form offers is what passes

A form is filled from the registry and the catalog, and a clause is checked against the same two, each
in its own way. In a checked registry the two ways agree: every offered path can be compared, exactly
the offered operators can be used on it, and where a model exposes paths no other path passes.

## What is proved

* `FieldData.Offers.collect`: what is offered after each path that was gone through, by induction on
  the paths.
* `fieldData_of_valid`: in a valid registry a form offers all paths of a model, in their order.
* `input_of_fault`, `validateClause_of_other_operator`: what a clause on a path that can be compared
  can fail on.
* `menus_agree_with_checks`: both together.
-/

namespace Filterbook

variable {r : Registry} {model : String} {catalog : Catalog} {m : Model}

/-! ### The paths -/

namespace Model

theorem map_fst_offeredPaths (m : Model) :
    m.offeredPaths.map Prod.fst =
      if m.filterFields = [] then m.scalarFields.map (·.name) else m.filterFields.map (·.path) := by
  unfold offeredPaths
  cases m.filterFields <;> simp [Function.comp_def]

/-- A path is open to filters when it is exposed, or when none is. -/
theorem allowsPath_iff {path : String} :
    m.allowsPath path = true ↔ m.filterFields = [] ∨ path ∈ m.filterFields.map (·.path) := by
  simp [allowsPath]

/-- Every offered path is open to filters. -/
theorem allowsPath_of_offered {path : String} (h : path ∈ m.offeredPaths.map Prod.fst) :
    m.allowsPath path = true := by
  rw [map_fst_offeredPaths] at h
  rw [allowsPath_iff]
  split at h
  · next hnone => exact .inl hnone
  · exact .inr h

/-- Where paths are exposed, no other path is open to filters. -/
theorem allowsPath_of_not_offered {path : String} (hexposed : m.filterFields ≠ [])
    (h : path ∉ m.offeredPaths.map Prod.fst) : m.allowsPath path = false := by
  rw [map_fst_offeredPaths, if_neg hexposed] at h
  rw [← Bool.not_eq_true, allowsPath_iff, not_or]
  exact ⟨hexposed, h⟩

/-- A valid model offers no path twice. -/
theorem Valid.nodup_offeredPaths (h : m.Valid r) : (m.offeredPaths.map Prod.fst).Nodup := by
  rw [map_fst_offeredPaths]
  split
  · exact m.fields.nodup.sublist (List.filter_sublist.map _)
  · exact h.paths_nodup

/-- In a valid registry every offered path resolves. -/
theorem resolve_offeredPath (hr : r.Valid) (hm : r.model model = .ok m) :
    ∀ path ∈ m.offeredPaths.map Prod.fst, ∃ field, r.resolve model path = .ok field := by
  obtain ⟨hmem, rfl⟩ := Registry.model_eq_ok_iff.mp hm
  rw [map_fst_offeredPaths]
  split
  · refine List.forall_mem_map.mpr fun f hf => ?_
    obtain ⟨hf, hscalar⟩ := List.mem_filter.mp hf
    cases htype : f.type with
    | scalar kind => exact ⟨_, Registry.resolve_name hr hm hf htype⟩
    | relation target => simp [Field.isRelation, htype, FieldType.model?] at hscalar
  · exact List.forall_mem_map.mpr (hr m hmem).paths_resolve

end Model

/-! ### What is offered -/

/-- A form offers these paths of a model and no others, in this order, each with the operators of the
field that it resolves to. -/
structure FieldData.Offers (r : Registry) (catalog : Catalog) (model : String) (paths : List String)
    (d : FieldData) : Prop where
  /-- The paths have words. -/
  labels : d.labels.keys = paths
  /-- The paths have operators. -/
  operators : d.operators.keys = paths
  /-- The operators are those of the catalog. -/
  menus : ∀ path entry, d.operators.get? path = some entry →
    ∃ field, r.resolve model path = .ok field ∧ entry = (path, catalog.menuFor field)

namespace FieldData

variable {d : FieldData} {paths : List String}

theorem offers_nothing (r : Registry) (catalog : Catalog) (model : String) :
    Offers r catalog model [] {} := ⟨rfl, rfl, nofun⟩

/-- A path that is new is offered after those before it. -/
theorem Offers.add (h : d.Offers r catalog model paths) {path : String} (hnew : path ∉ paths)
    {field : Resolved} (hfield : r.resolve model path = .ok field) (label? : Option String) :
    (d.add catalog path label? field).Offers r catalog model (paths ++ [path]) where
  labels := by
    rw [FieldData.add, Roster.keys_insert, h.labels, if_neg hnew]
  operators := by
    rw [FieldData.add, Roster.keys_insert, h.operators, if_neg hnew]
  menus path' entry hentry := by
    rw [FieldData.add, Roster.get?_insert] at hentry
    split at hentry
    · next heq =>
      cases heq
      cases hentry
      exact ⟨field, hfield, rfl⟩
    · exact h.menus path' entry hentry

/-- A path that is offered has the operators of its field. -/
theorem Offers.exists_menu (h : d.Offers r catalog model paths) {path : String} (hpath : path ∈ paths) :
    ∃ field, r.resolve model path = .ok field ∧
      d.operators.get? path = some (path, catalog.menuFor field) := by
  rw [← h.operators, ← Roster.contains_iff_mem_keys, Roster.contains_iff] at hpath
  obtain ⟨entry, hentry⟩ := hpath
  obtain ⟨field, hfield, rfl⟩ := h.menus path entry hentry
  exact ⟨field, hfield, hentry⟩

/-- **Going through paths that resolve offers them all**, after those offered before. -/
theorem Offers.collect (h : d.Offers r catalog model paths) {rest : List (String × Option String)}
    (hnodup : (paths ++ rest.map Prod.fst).Nodup)
    (hresolve : ∀ path ∈ rest.map Prod.fst, ∃ field, r.resolve model path = .ok field) :
    ∃ d' : FieldData,
      rest.foldlM (fun (d : FieldData) (p : String × Option String) => do
        .ok (d.add catalog p.1 p.2 (← r.resolve model p.1))) d = .ok d' ∧
      d'.Offers r catalog model (paths ++ rest.map Prod.fst) := by
  induction rest generalizing d paths with
  | nil => exact ⟨d, rfl, by rwa [List.map_nil, List.append_nil]⟩
  | cons p rest ih =>
    rw [List.map_cons, List.forall_mem_cons] at hresolve
    rw [List.map_cons, List.append_cons] at hnodup ⊢
    obtain ⟨⟨field, hfield⟩, hrest⟩ := hresolve
    have hnew : p.1 ∉ paths := by
      have hpaths : (paths ++ [p.1]).Nodup := (List.nodup_append.mp hnodup).1
      exact fun hmem => (List.nodup_append.mp hpaths).2.2 p.1 hmem p.1 (List.mem_singleton_self _) rfl
    obtain ⟨d', hrun, hoffers⟩ := ih (h.add hnew hfield p.2) hnodup hrest
    refine ⟨d', ?_, hoffers⟩
    rw [List.foldlM_cons, hfield]
    exact hrun

end FieldData

/-- **In a valid registry a form offers all paths of a model**, in their order. -/
theorem fieldData_of_valid (hr : r.Valid) (hm : r.model model = .ok m) (catalog : Catalog) :
    ∃ data, fieldData r catalog model = .ok data ∧
      data.Offers r catalog model (m.offeredPaths.map Prod.fst) := by
  have hvalid : m.Valid r := hr m (Registry.model_eq_ok_iff.mp hm).1
  obtain ⟨data, hrun, hoffers⟩ := (FieldData.offers_nothing r catalog model).collect
    hvalid.nodup_offeredPaths (Model.resolve_offeredPath hr hm)
  refine ⟨data, ?_, hoffers⟩
  simp only [fieldData, hm, bind, Except.bind]
  exact congrArg (Except.mapError QueryError.ofRegistry) hrun

/-! ### What is checked -/

/-- A path that resolves and is open to filters can be compared. -/
theorem filterableField_of_allowed {path : String} {field : Resolved} (hm : r.model model = .ok m)
    (hallowed : m.allowsPath path = true) (hfield : r.resolve model path = .ok field) :
    filterableField r model path = .ok field := by
  simp [filterableField, hm, hallowed, hfield]

/-- A clause on a path that is not open to filters fails for it, whatever else it says. -/
theorem validateClause_of_not_allowed {c : Clause} {path : String} (hpath : c.field = .path path)
    (hm : r.model model = .ok m) (hallowed : m.allowsPath path = false) :
    validateClause r model catalog c = .error (.unknownField path (.notExposed model)) := by
  simp [validateClause, hpath, filterableField, hm, hallowed, bind, Except.bind]

/-- A token that is not blank and names no operator of the field is not allowed. -/
theorem allowedOperator_of_other {field : Resolved} {path written : String}
    (htoken : Text.trim written ≠ "")
    (hother : ∀ o ∈ catalog.operatorsFor field, Operator.parse? (Text.trim written) ≠ some o) :
    allowedOperator catalog field path (some written) =
      .error (.operatorNotAllowed (Text.trim written) path) := by
  simp only [allowedOperator, Option.getD_some, if_neg htoken]
  split
  · rfl
  · next o hsome =>
    rw [if_neg]
    rw [Catalog.allows, List.contains_iff_mem]
    exact fun ho => hother o ho hsome

theorem input_of_operandValue {kind : Kind} {raw : String} {fault : ClauseFault}
    (h : operandValue kind raw = .error fault) : fault.input = "value" := by
  unfold operandValue at h
  split at h
  · cases h
    rfl
  · split at h
    · cases h
      rfl
    · cases h

/-- **A clause with a field and an operator that pass can only fail on its operand**, and only when the
operator takes one. -/
theorem input_of_fault {c : Clause} {path : String} {field : Resolved} {o : Operator}
    {fault : ClauseFault} (hpath : c.field = .path path)
    (hfield : filterableField r model path = .ok field)
    (ho : allowedOperator catalog field path c.operator? = .ok o)
    (h : validateClause r model catalog c = .error fault) :
    fault.input = "value" ∧ o.takesNoValue = false := by
  unfold validateClause at h
  rw [hpath] at h
  simp only [hfield, ho, bind, Except.bind] at h
  split at h
  · cases h
  · next hvalued =>
    refine ⟨?_, by simpa using hvalued⟩
    cases hvalue : operandValue field.kind c.value with
    | ok value => simp [hvalue] at h
    | error e =>
      rw [hvalue] at h
      cases h
      exact input_of_operandValue hvalue

/-- A clause with a field that passes fails on an operator that the field does not have. -/
theorem validateClause_of_other_operator {c : Clause} {path written : String} {field : Resolved}
    (hpath : c.field = .path path) (hfield : filterableField r model path = .ok field)
    (hwritten : c.operator? = some written) (htoken : Text.trim written ≠ "")
    (hother : ∀ o ∈ catalog.operatorsFor field, Operator.parse? (Text.trim written) ≠ some o) :
    validateClause r model catalog c =
      .error (.operatorNotAllowed (Text.trim written) path) := by
  simp [validateClause, hpath, hfield, hwritten, allowedOperator_of_other htoken hother, bind,
    Except.bind]

/-! ### Both together -/

/-- The operators offered for a path are those that pass in a clause. -/
structure OffersWhatPasses (r : Registry) (model : String) (catalog : Catalog) (path : String)
    (offered : List Operator) : Prop where
  /-- The path is not taken for the mark of a separator. -/
  is_path : ClauseField.ofText path = .path path
  /-- With the token of an offered operator only the operand can be wrong, if the operator takes one. -/
  of_offered : ∀ c : Clause, c.field = .path path → ∀ o ∈ offered, c.operator? = some o.token →
    ∀ fault, validateClause r model catalog c = .error fault →
      fault.input = "value" ∧ o.takesNoValue = false
  /-- With any other token, the operator is wrong. -/
  of_other : ∀ c : Clause, c.field = .path path → ∀ written, c.operator? = some written →
    Text.trim written ≠ "" → (∀ o ∈ offered, Operator.parse? (Text.trim written) ≠ some o) →
    validateClause r model catalog c = .error (.operatorNotAllowed (Text.trim written) path)

theorem Catalog.map_fst_menuFor (catalog : Catalog) (field : Resolved) :
    (catalog.menuFor field).map Prod.fst = catalog.operatorsFor field := by
  simp [menuFor, Function.comp_def]

/-- What is offered for a path that can be compared is what passes. -/
theorem offersWhatPasses_menuFor {path : String} {field : Resolved}
    (htext : path ≠ separatorText) (hfield : filterableField r model path = .ok field) :
    OffersWhatPasses r model catalog path ((catalog.menuFor field).map Prod.fst) := by
  rw [Catalog.map_fst_menuFor]
  refine ⟨if_neg htext, ?_, ?_⟩
  · intro c hpath o ho htoken fault hfault
    have hparse : Operator.parse? (Text.trim o.token) = some o := by
      rw [o.trim_token, o.parse?_token]
    have hallowed : allowedOperator catalog field path c.operator? = .ok o := by
      rw [htoken, allowedOperator_eq_ok_iff]
      exact ⟨hparse, ho⟩
    exact input_of_fault hpath hfield hallowed hfault
  · intro c hpath written hwritten htoken hother
    exact validateClause_of_other_operator hpath hfield hwritten htoken hother

/-- **What a form offers is what passes.** In a checked registry and with any catalog, every registered
model has a form. It offers the exposed paths in their order, or the scalar fields when none are
exposed, with words and with operators. A clause on an offered path passes with an offered operator
unless its operand is wrong, and fails with any other token; and where paths are exposed, a clause on
any other path fails. -/
theorem menus_agree_with_checks (hr : r.validate = .ok r) (hm : r.model model = .ok m)
    (catalog : Catalog) :
    ∃ data, fieldData r catalog model = .ok data ∧
      data.labels.keys =
        (if m.filterFields = [] then m.scalarFields.map (·.name) else m.filterFields.map (·.path)) ∧
      data.operators.keys = data.labels.keys ∧
      (∀ path ∈ data.labels.keys, ∃ menu, data.operators.get? path = some (path, menu) ∧
        OffersWhatPasses r model catalog path (menu.map Prod.fst)) ∧
      (m.filterFields ≠ [] → ∀ path ∉ data.labels.keys, ∀ c : Clause, c.field = .path path →
        validateClause r model catalog c = .error (.unknownField path (.notExposed model))) := by
  have hvalid : r.Valid := (Registry.validate_eq_ok_iff.mp hr).1
  obtain ⟨data, hdata, hoffers⟩ := fieldData_of_valid hvalid hm catalog
  refine ⟨data, hdata, hoffers.labels.trans m.map_fst_offeredPaths,
    hoffers.operators.trans hoffers.labels.symm, ?_, ?_⟩
  · intro path hpath
    rw [hoffers.labels] at hpath
    obtain ⟨field, hfield, hmenu⟩ := hoffers.exists_menu hpath
    have hcompared := filterableField_of_allowed hm (Model.allowsPath_of_offered hpath) hfield
    exact ⟨catalog.menuFor field, hmenu,
      offersWhatPasses_menuFor (Registry.ne_separatorText_of_resolve hvalid hfield) hcompared⟩
  · intro hexposed path hpath c hc
    rw [hoffers.labels] at hpath
    exact validateClause_of_not_allowed hc hm (Model.allowsPath_of_not_offered hexposed hpath)

/-- Products that expose the name of a part alone. -/
def shownProducts : Registry :=
  Registry.products.insert { Registry.product with filterFields := [{ path := "part__name" }] }

/-- A catalog where texts can be compared as a whole only, and not searched. -/
def plainCatalog : Catalog := Catalog.standard.withOperators .text [.exact, .iexact, .isEmpty]

theorem menus_agree_with_checks_products :
    shownProducts.validate = .ok shownProducts ∧
      ∃ data, fieldData shownProducts plainCatalog "Product" = .ok data ∧
        data.labels.keys = ["part__name"] ∧
        (∃ menu, data.operators.get? "part__name" = some ("part__name", menu) ∧
          OffersWhatPasses shownProducts "Product" plainCatalog "part__name" (menu.map Prod.fst)) ∧
        validateClause shownProducts "Product" plainCatalog
            { field := .path "part___name", operator? := some "exact", value := "x" } =
          .error (.unknownField "part___name" (.notExposed "Product")) := by
  have hvalid : shownProducts.validate = .ok shownProducts := rfl
  have hmodel : shownProducts.model "Product" =
      .ok { Registry.product with filterFields := [{ path := "part__name" }] } := rfl
  obtain ⟨data, hdata, hkeys, -, hmenus, hothers⟩ := menus_agree_with_checks hvalid hmodel plainCatalog
  have hshown : data.labels.keys = ["part__name"] := hkeys
  rw [hshown] at hmenus hothers
  exact ⟨hvalid, data, hdata, hshown, hmenus "part__name" (List.mem_singleton_self _),
    hothers (List.cons_ne_nil _ _) "part___name" (by decide) _ rfl⟩

end Filterbook

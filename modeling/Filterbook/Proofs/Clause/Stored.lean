import Filterbook.Proofs.Clause.Validation
import Filterbook.Service.Basic

/-!
# What is stored means what was validated

A clause is stored in a form of its own: the token of the operator in place of the word that the
author chose, no operand where none is taken, a bare separator. The stored form is a normal form of
validation: it passes again, with the same result (`validateClause_toClause`), and so does the list of
clauses that a submission leaves behind (`validateStored_toClause`). So a saved filter compiles to
what was validated, and storing it once more changes nothing (`stored_means_validated`).
-/

namespace Filterbook

variable {r : Registry} {model : String} {catalog : Catalog}

/-! ### Tokens -/

/-- The token of an operator has no blanks around it. -/
theorem Operator.trim_token (o : Operator) : Text.trim o.token = o.token := by
  cases o <;> decide

theorem Operator.parse?_token (o : Operator) : Operator.parse? o.token = some o := by
  cases o <;> decide

/-- An operator that was allowed in some words is allowed by its token. -/
theorem allowedOperator_token {field : Resolved} {path : String} {written? : Option String}
    {o : Operator} (h : allowedOperator catalog field path written? = .ok o) :
    allowedOperator catalog field path (some o.token) = .ok o := by
  rw [allowedOperator_eq_ok_iff] at h ⊢
  rw [Option.getD_some, o.trim_token, o.parse?_token]
  exact ⟨rfl, h.2⟩

/-- The operand that is stored is read as the operand that was written. -/
theorem Operand.stored {kind : Kind} {o : Operator} {written : String} {value : Value} {raw : String}
    (h : Operand kind o written value raw) : Operand kind o raw value raw := by
  unfold Operand at h ⊢
  split at h
  · next hno => rwa [if_pos hno]
  · next hno =>
    obtain ⟨hv, rfl⟩ := h
    rw [if_neg hno]
    exact ⟨hv, rfl⟩

/-! ### Clauses -/

/-- **The stored form of a clause that passed passes with the same result.** -/
theorem validateClause_toClause {c : Clause} {checked : Checked}
    (h : validateClause r model catalog c = .ok checked) :
    validateClause r model catalog checked.toClause = .ok checked := by
  rcases validateClause_cases h with
    ⟨-, rfl⟩ | ⟨path, field, o, value, raw, -, hfield, ho, hvalue, rfl⟩
  · rfl
  · exact validateClause_of_path rfl hfield (allowedOperator_token ho) hvalue.stored

/-- The stored form of a list of clauses that passed passes with the same results, and separators stay
where they are. -/
theorem forall₂_toClause {clauses : List Clause} {checked : List Checked}
    (h : List.Forall₂ (fun c k => validateClause r model catalog c = .ok k) clauses checked) :
    List.Forall₂ (fun c k => validateClause r model catalog c = .ok k)
        (checked.map Checked.toClause) checked ∧
      (checked.map Checked.toClause).map Clause.isSeparator = clauses.map Clause.isSeparator := by
  induction h with
  | nil => exact ⟨.nil, rfl⟩
  | cons hc _ ih =>
    have hstored := validateClause_toClause hc
    have hmark := (isSeparator_of_validateClause hstored).symm.trans (isSeparator_of_validateClause hc)
    refine ⟨.cons hstored ih.1, ?_⟩
    rw [List.map_cons, List.map_cons, List.map_cons, hmark, ih.2]

/-- **What a submission leaves behind passes again, with the same results.** -/
theorem validateStored_toClause {requests : List ClauseRequest} {checked : List Checked}
    (h : validateClauses r model catalog requests = .ok checked) :
    validateStored r model catalog (checked.map Checked.toClause) = .ok checked := by
  rw [validateClauses_eq_ok_iff] at h
  obtain ⟨hclauses, horder⟩ := h
  obtain ⟨hstored, hmarks⟩ := forall₂_toClause hclauses
  rw [validateStored_eq_ok_iff, hmarks]
  exact ⟨hstored, horder⟩

/-! ### Models -/

theorem Registry.contains_of_model {m : Model} (h : r.model model = .ok m) :
    r.contains model = true := by
  rw [Registry.contains, Roster.contains_iff]
  exact ⟨m, Roster.get?_eq_some_iff.mpr (Registry.model_eq_ok_iff.mp h)⟩

theorem Registry.model_of_contains (h : r.contains model = true) : ∃ m, r.model model = .ok m := by
  obtain ⟨m, hm⟩ := Roster.contains_iff.mp h
  exact ⟨m, Registry.model_eq_ok_iff.mpr (Roster.get?_eq_some_iff.mp hm)⟩

theorem contains_of_filterableField {path : String} {field : Resolved}
    (h : filterableField r model path = .ok field) : r.contains model = true := by
  unfold filterableField at h
  split at h
  · cases h
  · next hm => exact Registry.contains_of_model hm

/-- A submission that passes has a comparison, so its model is registered. -/
theorem contains_of_validateClauses {requests : List ClauseRequest} {checked : List Checked}
    (h : validateClauses r model catalog requests = .ok checked) : r.contains model = true := by
  rw [validateClauses_eq_ok_iff] at h
  obtain ⟨hclauses, horder⟩ := h
  cases hkept : keptClauses requests with
  | nil => simp [hkept, sequenceError?] at horder
  | cons c cs =>
    rw [hkept] at hclauses horder
    cases hclauses with
    | cons hc _ =>
      -- the first clause is no separator
      rcases validateClause_cases hc with ⟨hsep, -⟩ | ⟨_, _, _, _, _, -, hfield, -, -, -⟩
      · simp [sequenceError?, Clause.isSeparator, hsep, ClauseField.isSeparator] at horder
      · exact contains_of_filterableField hfield

/-! ### Saved filters -/

/-- A saved filter whose clauses pass compiles to what its clauses stand for. -/
theorem SavedFilter.compile_of_validateStored {f : SavedFilter} {checked : List Checked}
    (hmodel : r.contains f.target = true)
    (hclauses : validateStored r f.target catalog f.clauses = .ok checked) :
    f.compile r catalog = .ok (Filterbook.compile checked) := by
  obtain ⟨m, hm⟩ := Registry.model_of_contains hmodel
  simp [SavedFilter.compile, hm, hclauses]

/-- **What is stored means what was validated**: the stored form of a submission that passes is
validated to the same list again, a filter of the model with these clauses compiles to the filter of
that list, and a service that is asked to store them once more stores the same clauses. -/
theorem stored_means_validated {requests : List ClauseRequest} {checked : List Checked}
    (h : validateClauses r model catalog requests = .ok checked) :
    let stored := checked.map Checked.toClause
    validateStored r model catalog stored = .ok checked ∧
      r.contains model = true ∧
      (∀ f : SavedFilter, f.target = model → f.clauses = stored →
        f.compile r catalog = .ok (compile checked)) ∧
      ∀ s : Service, s.registry = r → s.catalog = catalog →
        s.checkedClauses model (stored.map .keep) = .ok stored := by
  intro stored
  have hstored : validateStored r model catalog stored = .ok checked := validateStored_toClause h
  have hmodel := contains_of_validateClauses h
  refine ⟨hstored, hmodel, ?_, ?_⟩
  · rintro f rfl hf
    exact SavedFilter.compile_of_validateStored hmodel (by rw [hf]; exact hstored)
  · rintro s rfl rfl
    rw [validateStored] at hstored
    simp only [Service.checkedClauses, hstored]
    rfl

/-- A registry of customers, who have a name and an age. -/
def customers : Registry :=
  Registry.insert {} {
    name := "Customer"
    fields := .ofList [{ name := "name", type := .scalar .string }, { name := "age", type := .scalar .int }] }

/-- A submission with a deleted request, an alias between blanks, a separator and a test for absence that
carry what they do not need, and a number with blanks around it. -/
def decorated : List ClauseRequest :=
  [{ clause := { field := .path "nickname", operator? := some "exact", value := "x" }, delete := true },
    .keep { field := .path "name", operator? := some " eq ", value := "Ann" },
    .keep { field := .separator, operator? := some "lt", value := "junk", negate := true },
    .keep { field := .path "age", operator? := some "isnull", value := "junk", negate := true },
    .keep { field := .path "age", operator? := some "lte", value := " +18 " }]

/-- What the decorated submission says. -/
def undecorated : List Checked :=
  [.comparison ⟨"name", .exact, .text "Ann", "Ann", false, .string⟩, .separator,
    .comparison ⟨"age", .isNull, .null, "", true, .int⟩,
    .comparison ⟨"age", .lte, .int 18, " +18 ", false, .int⟩]

theorem stored_means_validated_decorated :
    validateClauses customers "Customer" .standard decorated = .ok undecorated ∧
      validateStored customers "Customer" .standard (undecorated.map Checked.toClause) =
        .ok undecorated ∧
      Service.checkedClauses { registry := customers } "Customer"
          ((undecorated.map Checked.toClause).map .keep) = .ok (undecorated.map Checked.toClause) := by
  have h : validateClauses customers "Customer" .standard decorated = .ok undecorated := rfl
  obtain ⟨hstored, -, -, hagain⟩ := stored_means_validated h
  exact ⟨h, hstored, hagain { registry := customers } rfl rfl⟩

end Filterbook

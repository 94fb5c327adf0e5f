import Filterbook.Clause.Validation
import Mathlib.Data.List.Forall2

/-!
# When validation succeeds

Validation of a submission works with results and indices and gathers errors. A submission that passes
needs none of that: its kept clauses pass one by one, and their order is in order
(`validateClauses_eq_ok_iff`); and there are two ways for one clause to pass (`validateClause_cases`).
-/

namespace Filterbook

variable {r : Registry} {model : String} {catalog : Catalog}

/-! ### Lists of results -/

/-- A list of results without errors is the list of its successes. -/
theorem failures_eq_nil_and_successes_iff {ε α : Type} {results : List (Except ε α)} {as : List α} :
    failures results = [] ∧ successes results = as ↔ results = as.map .ok := by
  induction results generalizing as with
  | nil => simp [failures, successes, eq_comm]
  | cons result results ih =>
    cases result with
    | error e =>
      constructor
      · rintro ⟨h, -⟩
        simp [failures] at h
      · intro h
        cases as <;> simp at h
    | ok a =>
      have hf : failures (.ok a :: results) = failures results := by simp [failures]
      have hs : successes (.ok a :: results) = a :: successes results := by
        simp [successes, Except.toOption]
      rw [hf, hs]
      cases as with
      | nil => simp
      | cons b bs =>
        rw [List.map_cons, List.cons.injEq, List.cons.injEq, ← ih, Except.ok.injEq]
        exact and_left_comm

theorem mapError_eq_ok_iff {ε ε' α : Type} {f : ε → ε'} {x : Except ε α} {a : α} :
    x.mapError f = .ok a ↔ x = .ok a := by
  cases x <;> simp [Except.mapError]

/-! ### One clause -/

theorem Operator.parse?_empty : Operator.parse? "" = none := by decide

/-- An operator is allowed when the token without blanks names it and the catalog has it. -/
theorem allowedOperator_eq_ok_iff {field : Resolved} {path : String} {written? : Option String}
    {o : Operator} :
    allowedOperator catalog field path written? = .ok o ↔
      Operator.parse? (Text.trim (written?.getD "")) = some o ∧ o ∈ catalog.operatorsFor field := by
  rw [← List.contains_iff_mem, ← Catalog.allows]
  simp only [allowedOperator]
  split
  · next hblank => simp [hblank, Operator.parse?_empty]
  · split
    · next hnone => simp [hnone]
    · next o' hsome =>
      rw [hsome, Option.some.injEq]
      split
      · next hallows =>
        rw [Except.ok.injEq]
        exact ⟨fun h => ⟨h, h ▸ hallows⟩, And.left⟩
      · next hallows => exact iff_of_false nofun fun h => hallows (h.1 ▸ h.2)

/-- The operand of a checked comparison and the text that is stored for it. -/
def Operand (kind : Kind) (o : Operator) (written : String) (value : Value) (raw : String) : Prop :=
  if o.takesNoValue = true then value = .null ∧ raw = ""
  else operandValue kind written = .ok value ∧ raw = written

/-- A clause on a path passes when its field, its operator and its operand do. -/
theorem validateClause_of_path {c : Clause} {path : String} {field : Resolved} {o : Operator}
    {value : Value} {raw : String} (hpath : c.field = .path path)
    (hfield : filterableField r model path = .ok field)
    (ho : allowedOperator catalog field path c.operator? = .ok o)
    (hvalue : Operand field.kind o c.value value raw) :
    validateClause r model catalog c =
      .ok (.comparison ⟨path, o, value, raw, c.negate, field.kind⟩) := by
  unfold validateClause
  rw [hpath]
  simp only [hfield, ho, bind, Except.bind]
  unfold Operand at hvalue
  split at hvalue
  · next hno =>
    obtain ⟨rfl, rfl⟩ := hvalue
    rw [if_pos hno]
  · next hno =>
    obtain ⟨hv, rfl⟩ := hvalue
    rw [if_neg hno, hv]

/-- **How a clause passes**: it is a separator, or its field, its operator and its operand pass. -/
theorem validateClause_cases {c : Clause} {checked : Checked}
    (h : validateClause r model catalog c = .ok checked) :
    (c.field = .separator ∧ checked = .separator) ∨
      ∃ path field o value raw, c.field = .path path ∧
        filterableField r model path = .ok field ∧
        allowedOperator catalog field path c.operator? = .ok o ∧
        Operand field.kind o c.value value raw ∧
        checked = .comparison ⟨path, o, value, raw, c.negate, field.kind⟩ := by
  unfold validateClause at h
  split at h
  · next hsep =>
    cases h
    exact .inl ⟨hsep, rfl⟩
  · next path hpath =>
    cases hfield : filterableField r model path with
    | error e => simp [hfield, bind, Except.bind] at h
    | ok field =>
      cases ho : allowedOperator catalog field path c.operator? with
      | error e => simp [hfield, ho, bind, Except.bind] at h
      | ok o =>
        simp only [hfield, ho, bind, Except.bind] at h
        unfold Operand
        split at h
        · next hno =>
          cases h
          exact .inr ⟨path, field, o, .null, "", hpath, hfield, ho, by simp [hno], rfl⟩
        · next hno =>
          cases hvalue : operandValue field.kind c.value with
          | error e => simp [hvalue] at h
          | ok value =>
            simp only [hvalue] at h
            cases h
            exact .inr ⟨path, field, o, value, c.value, hpath, hfield, ho, by simp [hno, hvalue], rfl⟩

/-- A clause that passes stays what it is: separator or comparison. -/
theorem isSeparator_of_validateClause {c : Clause} {checked : Checked}
    (h : validateClause r model catalog c = .ok checked) : checked.isSeparator = c.isSeparator := by
  rcases validateClause_cases h with ⟨hsep, rfl⟩ | ⟨path, _, _, _, _, hpath, -, -, -, rfl⟩
  · simp [Checked.isSeparator, Clause.isSeparator, ClauseField.isSeparator, hsep]
  · simp [Checked.isSeparator, Clause.isSeparator, ClauseField.isSeparator, hpath]

/-! ### A submission -/

/-- The clauses of a submission that are kept. -/
def keptClauses (requests : List ClauseRequest) : List Clause :=
  (requests.filter fun q => !q.delete).map (·.clause)

theorem map_clause_keptRequests (requests : List ClauseRequest) :
    (keptRequests requests).map (·.1.clause) = keptClauses requests := by
  have hfst : requests.zipIdx.map Prod.fst = requests := List.zipIdx_map_fst 0 requests
  conv_rhs => rw [keptClauses, ← hfst, List.filter_map, List.map_map]
  rfl

theorem map_isSeparator_keptRequests (requests : List ClauseRequest) :
    (keptRequests requests).map (fun q => q.1.clause.isSeparator) =
      (keptClauses requests).map Clause.isSeparator := by
  rw [← map_clause_keptRequests, List.map_map]
  rfl

theorem keptClauses_keep (clauses : List Clause) :
    keptClauses (clauses.map ClauseRequest.keep) = clauses := by
  induction clauses with
  | nil => rfl
  | cons c cs ih =>
    show c :: keptClauses (cs.map ClauseRequest.keep) = c :: cs
    rw [ih]

/-- **When a submission passes**: every kept clause passes, and no rule of order is broken. -/
theorem validateClauses_eq_ok_iff {requests : List ClauseRequest} {checked : List Checked} :
    validateClauses r model catalog requests = .ok checked ↔
      List.Forall₂ (fun c k => validateClause r model catalog c = .ok k) (keptClauses requests)
          checked ∧
        sequenceError? ((keptClauses requests).map Clause.isSeparator) = none := by
  -- the results of the kept requests, without their indices
  have hresults : (keptRequests requests).map (fun q =>
        (validateClause r model catalog q.1.clause).mapError (FilterError.clause q.2)) =
          checked.map .ok ↔
        List.Forall₂ (fun c k => validateClause r model catalog c = .ok k)
          (keptClauses requests) checked := by
    rw [← map_clause_keptRequests, ← List.forall₂_eq_eq_eq, List.forall₂_map_left_iff,
      List.forall₂_map_right_iff, List.forall₂_map_left_iff]
    simp only [mapError_eq_ok_iff]
  rw [← hresults, ← failures_eq_nil_and_successes_iff]
  simp only [validateClauses, map_isSeparator_keptRequests]
  generalize (keptRequests requests).map _ = results
  generalize sequenceError? _ = order
  cases hfail : failures results with
  | cons e es => simp
  | nil =>
    cases order with
    | none => simp
    | some e => simp

theorem validateStored_eq_ok_iff {clauses : List Clause} {checked : List Checked} :
    validateStored r model catalog clauses = .ok checked ↔
      List.Forall₂ (fun c k => validateClause r model catalog c = .ok k) clauses checked ∧
        sequenceError? (clauses.map Clause.isSeparator) = none := by
  rw [validateStored, validateClauses_eq_ok_iff, keptClauses_keep]

end Filterbook

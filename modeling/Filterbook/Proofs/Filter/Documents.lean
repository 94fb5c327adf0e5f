import Filterbook.Proofs.Filter.Reached
import Filterbook.Proofs.Json.Equality

/-!
# Documents stored in a record

A Json value given as an operand is looked for as a whole, among the values that the path reaches. A list
at the end of the path stands for the values that it lists, so a stored list is not itself among them: it is
found by its items, and never as the document that it is.

## What is proved

* `Filter.document_found_iff`: a stored document is found as itself unless it is a list; a list is found by
  its items and by nothing that equals it.
* `Filter.list_missed`: a list is not found in the record that holds it, and found in one that holds it in
  another list.
-/

namespace Filterbook

namespace Value

variable {v j : Json}

/-- A document compares with a stored value only by being equal to it. -/
theorem order?_json (hj : j ≠ .null) : order? v (.json j) = some .eq ↔ v.eqv j = true := by
  have hnull : Json.eqv .null j = false := by
    cases j with
    | null => exact absurd rfl hj
    | _ => rfl
  cases v with
  | null => simp [order?, hnull]
  | _ => simp [order?]

end Value

namespace Filter

open Value

variable {f : String} {row k j : Json}

/-- A document is looked for among the values that the path reaches. -/
theorem holds_json_iff (hj : j ≠ .null) :
    (leaf .eq f (.json j)).holds row = true ↔ ∃ v ∈ row.reach f, v.eqv j = true := by
  have hasks : Comparator.asksMissing .eq (.json j) = false := rfl
  rw [holds_iff_exists hasks]
  refine exists_congr fun v => and_congr_right fun _ => ?_
  rw [← order?_json hj]
  exact beq_iff_eq

/-- **A stored document is found as itself** exactly when it is not a list. What is no list is found by the
documents that equal it, a list by those that equal one of its items, and these do not equal the list. -/
theorem document_found_iff (hf : ¬ pathSeparator.toList <:+: f.toList) (hj : j ≠ .null)
    (hfinite : j.IsFinite) :
    (∀ row, row.get? f = some j →
        ((leaf .eq f (.json j)).holds row = true ↔ ∀ items, j ≠ .arr items)) ∧
      (∀ row k, row.get? f = some k → (∀ items, k ≠ .arr items) →
        ((leaf .eq f (.json j)).holds row = true ↔ k.eqv j = true)) ∧
      ∀ row items, row.get? f = some (.arr items) →
        ((leaf .eq f (.json j)).holds row = true ↔ ∃ v ∈ items, v.eqv j = true) ∧
          ((leaf .eq f (.json j)).holds row = true → (Json.arr items).eqv j = false) := by
  have hplain : ∀ row k, row.get? f = some k → (∀ items, k ≠ .arr items) →
      ((leaf .eq f (.json j)).holds row = true ↔ k.eqv j = true) := by
    intro row k hrow hk
    have hspread : k.spread = [k] := by
      cases k with
      | arr items => exact absurd rfl (hk items)
      | _ => rfl
    rw [holds_json_iff hj, Json.reach_name hf hrow, hspread]
    simp
  have hlist : ∀ row items, row.get? f = some (.arr items) →
      ((leaf .eq f (.json j)).holds row = true ↔ ∃ v ∈ items, v.eqv j = true) := by
    intro row items hrow
    rw [holds_json_iff hj, Json.reach_name hf hrow]
    rfl
  -- an item has fewer parts than its list
  have hdiffers : ∀ row items, row.get? f = some (.arr items) →
      (leaf .eq f (.json j)).holds row = true → (Json.arr items).eqv j = false := by
    intro row items hrow h
    obtain ⟨v, hv, heqv⟩ := (hlist row items hrow).mp h
    have hlt := Json.parts_lt_of_mem hv
    rw [Json.parts_of_eqv heqv] at hlt
    exact Bool.eq_false_iff.mpr fun hself => hlt.ne' (Json.parts_of_eqv hself)
  refine ⟨fun row hrow => ⟨fun h items hitems => ?_, fun hitems => ?_⟩, hplain,
    fun row items hrow => ⟨hlist row items hrow, hdiffers row items hrow⟩⟩
  · have hself := hdiffers row items (hitems ▸ hrow) h
    rw [← hitems, hfinite.eqv_self] at hself
    cases hself
  · exact (hplain row j hrow hitems).mpr hfinite.eqv_self

/-- What a product is like. -/
def traits : Json := .obj [("colour", .str "red"), ("sizes", .arr [.int 1, .int 2])]

theorem document_found_iff_traits :
    ¬ pathSeparator.toList <:+: "traits".toList ∧ traits ≠ .null ∧ traits.IsFinite ∧
      (Json.obj [("traits", traits)]).get? "traits" = some traits ∧
      (leaf .eq "traits" (.json traits)).holds (.obj [("traits", traits)]) = true := by
  have hmark : ¬ pathSeparator.toList <:+: "traits".toList := by decide
  have hnull : traits ≠ .null := fun h => by cases h
  have hfinite : traits.IsFinite := by
    refine .obj (List.forall_mem_cons.mpr ⟨.str _, List.forall_mem_singleton.mpr (.arr ?_)⟩)
    exact List.forall_mem_cons.mpr ⟨.int 1, List.forall_mem_singleton.mpr (.int 2)⟩
  have hrow : (Json.obj [("traits", traits)]).get? "traits" = some traits := rfl
  obtain ⟨hfound, -⟩ := document_found_iff hmark hnull hfinite
  exact ⟨hmark, hnull, hfinite, hrow, (hfound _ hrow).mpr fun items h => by cases h⟩

/-- **A list is missed where it is stored**, and found in a list of lists that does not equal it. -/
theorem list_missed :
    (leaf .eq "sizes" (.json (.arr [.int 1, .int 2]))).holds
        (.obj [("sizes", .arr [.int 1, .int 2])]) = false ∧
      (leaf .eq "sizes" (.json (.arr [.int 1, .int 2]))).holds
        (.obj [("sizes", .arr [.arr [.int 1, .int 2]])]) = true ∧
      (Json.arr [.arr [.int 1, .int 2]]).eqv (.arr [.int 1, .int 2]) = false := by
  decide

end Filter

end Filterbook

import Filterbook.Proofs.Filter.Ordering
import Filterbook.Proofs.Json.Tokens
import Filterbook.Proofs.Number.Integers

/-!
# Integers beyond the signed ones

An operand has 64 bits with a sign; a record may also hold an integer of 64 bits without one. Where it is
too large for a signed integer, both are compared in floating point. That tells every such integer from
every operand, but for those next to the limit: on either side of it they are rounded to the limit itself.

## What is proved

* `Number.compare_rounded_gt`: rounding keeps apart what is not next to the limit.
* `Value.compareInt?_of_not_nextToLimit`: so a number compares with an operand as an integer.
* `Filter.wide_integers_compared_iff`: comparisons answer as the order of the integers exactly then.
* `Filter.limit_found_as_greatest`: the limit is found as the greatest signed integer.
-/

namespace Filterbook

open Number

namespace Number

variable {n i : Int}

/-- Two integers, one beyond the signed ones and one of these, that are both rounded to the limit between
them: the least integer that is not signed. -/
structure NextToLimit (n i : Int) : Prop where
  /-- The larger one is no signed integer. -/
  beyond : twoTo 63 ≤ n
  /-- It is rounded down: half a place away at most. -/
  above : n ≤ twoTo 63 + 1024
  /-- The smaller one is rounded up: half a place away at most. Below the limit, places are half as wide. -/
  below : twoTo 63 - 512 ≤ i

theorem rounded_beyond (hn : twoTo 63 ≤ n) :
    twoTo 63 ≤ Binary64.rounded n ∧ (Binary64.rounded n = twoTo 63 ↔ n ≤ twoTo 63 + 1024) := by
  have hlimit : Binary64.rounded (twoTo 63) = twoTo 63 := by decide
  have hhalf : Binary64.rounded (twoTo 63 + 1024) = twoTo 63 := by decide
  have hnext : Binary64.rounded (twoTo 63 + 1025) = twoTo 63 + 2048 := by decide
  have hleast := Binary64.rounded_mono hn
  refine ⟨hlimit ▸ hleast, fun h => ?_, fun h => ?_⟩
  · by_contra hlarge
    have := Binary64.rounded_mono (show (twoTo 63 : Int) + 1025 ≤ n by omega)
    omega
  · have := Binary64.rounded_mono h
    omega

theorem rounded_below (hi : i < twoTo 63) :
    Binary64.rounded i ≤ twoTo 63 ∧ (Binary64.rounded i = twoTo 63 ↔ twoTo 63 - 512 ≤ i) := by
  have hgreatest : Binary64.rounded (twoTo 63 - 1) = twoTo 63 := by decide
  have hhalf : Binary64.rounded (twoTo 63 - 512) = twoTo 63 := by decide
  have hnext : Binary64.rounded (twoTo 63 - 513) = twoTo 63 - 1024 := by decide
  have hmost := Binary64.rounded_mono (show i ≤ (twoTo 63 : Int) - 1 by omega)
  refine ⟨hgreatest ▸ hmost, fun h => ?_, fun h => ?_⟩
  · by_contra hsmall
    have := Binary64.rounded_mono (show i ≤ (twoTo 63 : Int) - 513 by omega)
    omega
  · have := Binary64.rounded_mono h
    omega

/-- Next to the limit, rounding makes no difference between the two. -/
theorem compare_rounded_eq (h : NextToLimit n i) (hi : i < twoTo 63) :
    compare (Binary64.rounded n) (Binary64.rounded i) = .eq := by
  obtain ⟨hn, habove, hbelow⟩ := h
  rw [compare_eq_iff_eq, (rounded_beyond hn).2.mpr habove, (rounded_below hi).2.mpr hbelow]

/-- **Elsewhere rounding keeps the two apart.** -/
theorem compare_rounded_gt (h : ¬ NextToLimit n i) (hn : twoTo 63 ≤ n) (hi : i < twoTo 63) :
    compare (Binary64.rounded n) (Binary64.rounded i) = .gt := by
  obtain ⟨hbeyond, habove⟩ := rounded_beyond hn
  obtain ⟨hmost, hbelow⟩ := rounded_below hi
  rw [compare_gt_iff_gt]
  refine lt_of_le_of_ne (hmost.trans hbeyond) fun heq => h ⟨hn, ?_, ?_⟩
  · exact habove.mp (le_antisymm (heq ▸ hmost) hbeyond)
  · exact hbelow.mp (le_antisymm hmost (heq ▸ hbeyond))

end Number

namespace Value

variable {n i : Int}

/-- Beyond the signed integers, the rounded values decide. -/
theorem compareInt?_beyond (hn : twoTo 63 ≤ n) (hmost : n < twoTo 64) (hi : inInt64 i = true) :
    compareInt? (.int n) i = some (compare (Binary64.rounded n) (Binary64.rounded i)) := by
  have hsigned : inInt64 n = false := Bool.eq_false_iff.mpr fun h => by
    have := inInt64_iff.mp h
    omega
  have hdouble : twoTo 64 = 2 * twoTo 63 := by decide
  rw [inInt64_iff] at hi
  simp only [compareInt?, hsigned, Bool.false_eq_true, if_false]
  exact Binary64.compare?_ofInt (log2_le_of_lt (by omega)) (log2_le_of_lt (by omega))

/-- **Integers compare as integers**, unless they are next to the limit. -/
theorem compareInt?_of_not_nextToLimit (h : ¬ NextToLimit n i) (hn : Json.InWord n)
    (hi : inInt64 i = true) :
    compareInt? (.int n) i = some (compare n i) := by
  by_cases hbeyond : twoTo 63 ≤ n
  · have hlt : i < twoTo 63 := (inInt64_iff.mp hi).2
    rw [compareInt?_beyond hbeyond hn.2 hi, compare_rounded_gt h hbeyond hlt,
      compare_gt_iff_gt.mpr (hlt.trans_le hbeyond)]
  · exact if_pos (inInt64_iff.mpr ⟨hn.1, not_le.mp hbeyond⟩)

end Value

namespace Filter

open Value

variable {f : String} {row : Json} {n i : Int}

/-- **A stored integer compares with an operand as an integer** exactly when the two are not next to the
limit of the signed integers. Next to it, the stored one is taken for the operand itself. -/
theorem wide_integers_compared_iff (hf : ¬ pathSeparator.toList <:+: f.toList)
    (hrow : row.get? f = some (.int n)) (hn : Json.InWord n) (hi : inInt64 i = true) :
    (OrdersAs f (.int i) row n i ↔ ¬ NextToLimit n i) ∧
      (NextToLimit n i → OrdersAs f (.int i) row i i) := by
  have hreach : row.reach f = [.int n] := Json.reach_name hf hrow
  have hnull : Value.int i ≠ .null := fun h => by cases h
  have hlt : i < twoTo 63 := (inInt64_iff.mp hi).2
  have hnext : NextToLimit n i → OrdersAs f (.int i) row i i := by
    intro h
    have horder : order? (.int n) (.int i) = some .eq :=
      (compareInt?_beyond h.beyond hn.2 hi).trans (congrArg some (compare_rounded_eq h hlt))
    exact ordersAs_of_compares hreach hnull horder rfl
  refine ⟨⟨fun h hlimit => ?_, fun h => ?_⟩, hnext⟩
  · -- equality holds there, of an integer that is larger
    have heq : n = i := h.eq.mp ((hnext hlimit).eq.mpr rfl)
    have := hlimit.beyond
    omega
  · have hcompares : (compare n i).Compares n i := by
      rw [← cmp_eq_compare]
      exact cmp_compares n i
    exact ordersAs_of_compares hreach hnull (compareInt?_of_not_nextToLimit h hn hi) hcompares

/-- A record with an integer that is rounded up, away from the limit. -/
def odometer : Json := .obj [("count", .int 9223372036854776833)]

theorem wide_integers_compared_iff_odometer :
    ¬ pathSeparator.toList <:+: "count".toList ∧
      odometer.get? "count" = some (.int 9223372036854776833) ∧
      Json.InWord 9223372036854776833 ∧ inInt64 9223372036854775807 = true ∧
      (leaf .gt "count" (.int 9223372036854775807)).holds odometer = true := by
  have hmark : ¬ pathSeparator.toList <:+: "count".toList := by decide
  have hrow : odometer.get? "count" = some (.int 9223372036854776833) := rfl
  have hword : Json.InWord 9223372036854776833 := ⟨by decide, by decide⟩
  have hsigned : inInt64 9223372036854775807 = true := by decide
  have hapart : ¬ NextToLimit 9223372036854776833 9223372036854775807 := fun h =>
    absurd h.above (by decide)
  obtain ⟨hcompared, -⟩ := wide_integers_compared_iff hmark hrow hword hsigned
  exact ⟨hmark, hrow, hword, hsigned, (hcompared.mpr hapart).gt.mpr (by decide)⟩

/-- **The limit is found as the greatest signed integer**, which is one less. -/
theorem limit_found_as_greatest :
    (leaf .eq "count" (.int 9223372036854775807)).holds (.obj [("count", .int 9223372036854775808)]) =
        true ∧
      (9223372036854775808 : Int) ≠ 9223372036854775807 :=
  ⟨by decide +kernel, by decide⟩

end Filter

end Filterbook

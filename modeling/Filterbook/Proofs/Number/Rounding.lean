import Filterbook.Number.Binary64
import Mathlib.Algebra.Order.Field.Rat
import Mathlib.Algebra.Order.Field.Power
import Mathlib.Data.Rat.Cast.Order
import Mathlib.Order.Compare
import Mathlib.Tactic.Ring
import Mathlib.Tactic.SplitIfs
import Mathlib.Tactic.Linarith

/-!
# Integers in floating point

An integer of more than 53 bits has no floating-point number of its own: its last bits are rounded away,
to the nearest multiple of the last place that is left, a half going to the even one. Two integers whose
rounded values are equal can no longer be told apart, and no two change places.

## What is proved

* `Binary64.compare?_finite`: finite numbers compare by their values as fractions.
* `roundToBits_mono`, `Binary64.rounded_mono`: rounding keeps the order.
* `Binary64.compare?_ofInt`: integers compare in floating point as their rounded values do.
-/

namespace Filterbook.Number

theorem twoTo_add (m n : Nat) : twoTo (m + n) = twoTo m * twoTo n := Nat.pow_add 2 m n

theorem twoTo_pos (n : Nat) : 0 < twoTo n := Nat.pow_pos (by decide)

theorem twoTo_le {m n : Nat} (h : m ≤ n) : twoTo m ≤ twoTo n := Nat.pow_le_pow_right (by decide) h

/-! ### Halves to even -/

theorem div_le_roundHalfEven (n d : Nat) : n / d ≤ roundHalfEven n d := by
  simp only [roundHalfEven]
  split_ifs <;> omega

theorem roundHalfEven_le_succ (n d : Nat) : roundHalfEven n d ≤ n / d + 1 := by
  simp only [roundHalfEven]
  split_ifs <;> omega

theorem roundHalfEven_one (n : Nat) : roundHalfEven n 1 = n := by
  simp [roundHalfEven, Nat.mod_one]

/-- A larger numerator is not rounded to less. -/
theorem roundHalfEven_mono {m n : Nat} (h : m ≤ n) (d : Nat) :
    roundHalfEven m d ≤ roundHalfEven n d := by
  have hquotient : m / d ≤ n / d := Nat.div_le_div_right h
  rcases hquotient.lt_or_eq with hlt | heq
  · exact (roundHalfEven_le_succ m d).trans (hlt.trans_le (div_le_roundHalfEven n d))
  · -- the rests decide, and they are in the same order
    have hrest : m % d ≤ n % d := by
      have hm := Nat.div_add_mod m d
      have hn := Nat.div_add_mod n d
      rw [heq] at hm
      omega
    simp only [roundHalfEven, heq]
    split_ifs <;> omega

/-- The natural number nearest to another among those with 53 significant bits, a half going to the
even significand. -/
def roundToBits (n : Nat) : Nat :=
  roundHalfEven n (twoTo (n.log2 - 52)) * twoTo (n.log2 - 52)

variable {m n : Nat}

/-- With a surplus of bits, a significand has all 53 of them. -/
theorem le_roundHalfEven (h : 52 ≤ n.log2) : twoTo 52 ≤ roundHalfEven n (twoTo (n.log2 - 52)) := by
  have hne : n ≠ 0 := by
    rintro rfl
    exact absurd h (by decide)
  have hlow : twoTo (n.log2 - 52 + 52) ≤ n := by
    rw [Nat.sub_add_cancel h]
    exact Nat.log2_self_le hne
  refine le_trans ?_ (div_le_roundHalfEven _ _)
  rw [Nat.le_div_iff_mul_le (twoTo_pos _), ← twoTo_add, Nat.add_comm]
  exact hlow

theorem roundHalfEven_le (n : Nat) : roundHalfEven n (twoTo (n.log2 - 52)) ≤ twoTo 53 := by
  refine (roundHalfEven_le_succ _ _).trans ?_
  rw [Nat.succ_le_iff, Nat.div_lt_iff_lt_mul (twoTo_pos _), ← twoTo_add]
  exact Nat.lt_log2_self.trans_le (twoTo_le (by omega))

theorem log2_mono (h : m ≤ n) : m.log2 ≤ n.log2 := by
  by_cases hm : m = 0
  · subst hm
    exact Nat.zero_le _
  · exact (Nat.le_log2 (by omega)).mpr ((Nat.log2_self_le hm).trans h)

/-- An integer of 64 bits is far from the largest that floating point holds. -/
theorem log2_le_of_lt (h : n < twoTo 64) : n.log2 ≤ 1022 :=
  (log2_mono (Nat.le_sub_one_of_lt h)).trans (by decide)

/-- **Rounding keeps the order.** -/
theorem roundToBits_mono (h : m ≤ n) : roundToBits m ≤ roundToBits n := by
  unfold roundToBits
  rcases (Nat.sub_le_sub_right (log2_mono h) 52).lt_or_eq with hlt | heq
  · -- the larger number has more bits, and so a larger least significand
    have hbits : 52 ≤ n.log2 := by omega
    calc roundHalfEven m (twoTo (m.log2 - 52)) * twoTo (m.log2 - 52)
        ≤ twoTo 53 * twoTo (m.log2 - 52) := Nat.mul_le_mul_right _ (roundHalfEven_le m)
      _ = twoTo (53 + (m.log2 - 52)) := (twoTo_add _ _).symm
      _ ≤ twoTo (52 + (n.log2 - 52)) := twoTo_le (by omega)
      _ = twoTo 52 * twoTo (n.log2 - 52) := twoTo_add _ _
      _ ≤ roundHalfEven n (twoTo (n.log2 - 52)) * twoTo (n.log2 - 52) :=
        Nat.mul_le_mul_right _ (le_roundHalfEven hbits)
  · rw [heq]
    exact Nat.mul_le_mul_right _ (roundHalfEven_mono h _)

namespace Binary64

/-! ### Values -/

/-- The value of a finite number. -/
def value : Binary64 → ℚ
  | finite negative significand exponent =>
    (if negative then -1 else 1) * significand * 2 ^ exponent
  | _ => 0

theorem twoTo_natAbs {i : Int} (h : 0 ≤ i) : ((twoTo i.natAbs : Nat) : ℚ) = 2 ^ i := by
  rw [twoTo, Nat.pow_eq, Nat.cast_pow, ← zpow_natCast, Int.natAbs_of_nonneg h]
  rfl

/-- Moving a significand down leaves the value. -/
theorem alignedTo_mul (negative : Bool) (significand : Nat) {low exponent : Int} (h : low ≤ exponent) :
    (alignedTo low negative significand exponent : ℚ) * 2 ^ low =
      (finite negative significand exponent).value := by
  have hpower : ((twoTo (exponent - low).natAbs : Nat) : ℚ) * 2 ^ low = 2 ^ exponent := by
    rw [twoTo_natAbs (Int.sub_nonneg_of_le h), ← zpow_add₀ two_ne_zero, Int.sub_add_cancel]
  cases negative with
  | false => simp [alignedTo, value, mul_assoc, hpower]
  | true => simp [alignedTo, value, mul_assoc, hpower]

/-- Finite numbers compare by value. -/
theorem compare?_finite (s t : Bool) (m n : Nat) (e f : Int) :
    (finite s m e).compare? (finite t n f) =
      some (compare (finite s m e).value (finite t n f).value) := by
  have hmono : StrictMono fun a : Int => (a : ℚ) * 2 ^ min e f := by
    intro a b hab
    exact mul_lt_mul_of_pos_right (Int.cast_lt.mpr hab) (zpow_pos two_pos _)
  rw [← alignedTo_mul s m (min_le_left e f), ← alignedTo_mul t n (min_le_right e f),
    ← cmp_eq_compare, hmono.cmp_map_eq, cmp_eq_compare]
  rfl

/-! ### Integers -/

/-- An integer rounded to 53 significant bits. -/
def rounded (n : Int) : Int := if n < 0 then -(roundToBits n.natAbs : Int) else roundToBits n.natAbs

theorem rounded_mono {m n : Int} (h : m ≤ n) : rounded m ≤ rounded n := by
  unfold rounded
  split_ifs with hm hn hn
  · have := roundToBits_mono (show n.natAbs ≤ m.natAbs by omega)
    omega
  · omega
  · omega
  · have := roundToBits_mono (show m.natAbs ≤ n.natAbs by omega)
    omega

/-- The significand of an integer, aligned so that it has 53 bits. -/
def wholeSignificand (n : Nat) : Nat := scaledQuotient n 1 ((n.log2 : Int) - 52)

theorem le_scaledFloor {n : Nat} (hn : n ≠ 0) : twoTo 53 ≤ scaledFloor n 1 ((n.log2 : Int) - 53) := by
  have hlow : twoTo n.log2 ≤ n := Nat.log2_self_le hn
  unfold scaledFloor
  split
  · next h =>
    have hbits : 53 = n.log2 + ((n.log2 : Int) - 53).natAbs := by omega
    calc twoTo 53 = twoTo n.log2 * twoTo ((n.log2 : Int) - 53).natAbs := by rw [← twoTo_add, ← hbits]
      _ ≤ n * twoTo ((n.log2 : Int) - 53).natAbs := Nat.mul_le_mul_right _ hlow
      _ = _ := (Nat.div_one _).symm
  · next h =>
    have hbits : n.log2 = 53 + ((n.log2 : Int) - 53).natAbs := by omega
    rw [Nat.one_mul, Nat.le_div_iff_mul_le (twoTo_pos _), ← twoTo_add, ← hbits]
    exact hlow

/-- The significand of an integer is worth the rounded integer. -/
theorem wholeSignificand_mul (n : Nat) :
    (wholeSignificand n : ℚ) * 2 ^ ((n.log2 : Int) - 52) = roundToBits n := by
  unfold wholeSignificand scaledQuotient roundToBits
  split
  · next h =>
    -- there is room for all bits
    have hbits : n.log2 - 52 = 0 := by omega
    have hpower : ((twoTo ((n.log2 : Int) - 52).natAbs : Nat) : ℚ) * 2 ^ ((n.log2 : Int) - 52) = 1 := by
      rw [← Int.natAbs_neg, twoTo_natAbs (by omega), ← zpow_add₀ two_ne_zero, Int.add_left_neg, zpow_zero]
    have hone : twoTo 0 = 1 := rfl
    rw [roundHalfEven_one, hbits, hone, roundHalfEven_one, Nat.cast_mul, mul_assoc, hpower]
    simp
  · next h =>
    have hbits : ((n.log2 : Int) - 52).natAbs = n.log2 - 52 := by omega
    rw [← twoTo_natAbs (by omega), hbits, Nat.one_mul, Nat.cast_mul]

theorem wholeSignificand_le (n : Nat) : wholeSignificand n ≤ twoTo 53 := by
  unfold wholeSignificand scaledQuotient
  split
  · next h =>
    have hbits : (n.log2 + 1) + ((n.log2 : Int) - 52).natAbs = 53 := by omega
    rw [roundHalfEven_one, ← hbits, twoTo_add]
    exact Nat.mul_le_mul_right _ Nat.lt_log2_self.le
  · next h =>
    have hbits : ((n.log2 : Int) - 52).natAbs = n.log2 - 52 := by omega
    rw [Nat.one_mul, hbits]
    exact roundHalfEven_le n

/-- What an integer of moderate size is rounded to. -/
theorem ofRatio_one (negative : Bool) {n : Nat} (hn : n ≠ 0) (hsize : n.log2 ≤ 1022) :
    ∃ m e, ofRatio negative n 1 = finite negative m e ∧ (m : ℚ) * 2 ^ e = roundToBits n := by
  have hguess : max ((n.log2 : Int) - (1 : Nat).log2 - 53) (-1074) = n.log2 - 53 := by
    have hone : (1 : Nat).log2 = 0 := by decide
    rw [hone]
    omega
  have hexponent : ((n.log2 : Int) - 53) + 1 = n.log2 - 52 := by omega
  have hfloor : ¬ scaledFloor n 1 ((n.log2 : Int) - 53) < twoTo 53 := Nat.not_lt.mpr (le_scaledFloor hn)
  have hpack : ∀ m (e : Int), e ≤ 971 → pack negative m e = finite negative m e :=
    fun m e he => if_neg (by omega)
  have hvalue := wholeSignificand_mul n
  have hle := wholeSignificand_le n
  simp only [ofRatio, hn, if_false, hguess, hfloor, hexponent]
  rw [← wholeSignificand]
  split
  · exact ⟨_, _, hpack _ _ (by omega), hvalue⟩
  · next hlarge =>
    -- rounding up has filled the next bit
    have hcarry : wholeSignificand n = 2 * (twoTo 52) := by
      have : twoTo 53 = 2 * twoTo 52 := by decide
      omega
    refine ⟨_, _, hpack _ _ (by omega), ?_⟩
    rw [← hvalue, hcarry, Nat.mul_div_cancel_left _ (by decide), zpow_add_one₀ two_ne_zero]
    push_cast
    ring

/-- **An integer is rounded to 53 significant bits.** -/
theorem ofInt_eq {n : Int} (hsize : n.natAbs.log2 ≤ 1022) :
    ∃ s m e, ofInt n = finite s m e ∧ (finite s m e).value = rounded n := by
  unfold ofInt
  by_cases hn : n.natAbs = 0
  · refine ⟨_, 0, -1074, if_pos hn, ?_⟩
    obtain rfl : n = 0 := Int.natAbs_eq_zero.mp hn
    have hzero : rounded 0 = 0 := by decide
    simp [value, hzero]
  · obtain ⟨m, e, hratio, hvalue⟩ := ofRatio_one (decide (n < 0)) hn hsize
    refine ⟨_, m, e, hratio, ?_⟩
    rw [value, rounded, mul_assoc, hvalue]
    by_cases hneg : n < 0 <;> simp [hneg]

/-- Two integers compare in floating point as their rounded values do. -/
theorem compare?_ofInt {m n : Int} (hm : m.natAbs.log2 ≤ 1022) (hn : n.natAbs.log2 ≤ 1022) :
    (ofInt m).compare? (ofInt n) = some (compare (rounded m) (rounded n)) := by
  obtain ⟨s, k, e, heq, hvalue⟩ := ofInt_eq hm
  obtain ⟨t, l, f, heq', hvalue'⟩ := ofInt_eq hn
  rw [heq, heq', compare?_finite, hvalue, hvalue', ← cmp_eq_compare, Int.cast_strictMono.cmp_map_eq,
    cmp_eq_compare]

end Binary64

end Filterbook.Number

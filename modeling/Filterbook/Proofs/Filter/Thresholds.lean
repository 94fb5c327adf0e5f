import Filterbook.Proofs.Filter.Ordering
import Filterbook.Proofs.Number.Integers

/-!
# Thresholds

A range comparison holds the stored values against a threshold. This module says what that means for all
five comparisons together, and for two thresholds on the same row. A stored value may be read in several
ways, as a number, as a text or in floating point; whichever way is taken for one threshold is taken for
every other of the kind.

## What is proved

* `Value.AtMost.beside`: beside a stored value, two operands of a kind keep their order, or neither can be
  compared with it.
* `Filter.holds_lte_iff`, `Filter.holds_gte_iff`: "at most" is "less" or "equal", on every row.
* `Filter.ranges_follow_the_order`: so the comparisons of one value answer as an order does, and raising
  a threshold keeps what is below it and loses nothing above the higher one.
-/

namespace Filterbook

open Number

namespace Value

/-! ### Two operands of a kind -/

/-- The first of two operands is not above the second, in the order of their kind. What is no number has no
order, nor have documents and lists. -/
inductive AtMost : Value → Value → Prop where
  /-- False comes before true. -/
  | bool {a b : Bool} (h : a ≤ b) : AtMost (bool a) (bool b)
  /-- Integers have 64 bits. -/
  | int {m n : Int} (hm : inInt64 m = true) (hn : inInt64 n = true) (h : m ≤ n) : AtMost (int m) (int n)
  /-- Infinities stand at the ends, and zeros of both signs are equal. -/
  | float {x y : Binary64} (hx : x ≠ .nan) (hy : y ≠ .nan) (h : (float x).place ≤ (float y).place) :
      AtMost (float x) (float y)
  /-- Decimal numbers go by what they are worth. -/
  | decimal {c d : Decimal} (h : c.value ≤ d.value) : AtMost (decimal c) (decimal d)
  /-- Texts go by the numbers of their characters. -/
  | text {s t : String} (h : (text s).place ≤ (text t).place) : AtMost (text s) (text t)
  /-- Year, month and day. -/
  | date {a b : Calendar.Date} (h : a.numbers ≤ b.numbers) : AtMost (date a) (date b)
  /-- The day, and then the time. -/
  | dateTime {a b : Calendar.DateTime} (h : a.numbers ≤ b.numbers) : AtMost (dateTime a) (dateTime b)
  /-- Hour, minute, second and nanoseconds. -/
  | time {a b : Calendar.TimeOfDay} (h : a.numbers ≤ b.numbers) : AtMost (time a) (time b)
  /-- Identifiers go by their bits. -/
  | uuid {a b : Uuid} (h : a.value ≤ b.value) : AtMost (uuid a) (uuid b)

theorem AtMost.ne_null {v w : Value} (h : v.AtMost w) : v ≠ null ∧ w ≠ null := by
  cases h <;> exact ⟨nofun, nofun⟩

/-- Beside a stored value, the second operand is not below the first: neither can be compared with it, or
both compare as its place does with theirs. -/
inductive Beside (stored : Json) (v w : Value) : Prop where
  /-- Neither can be compared. -/
  | apart (hv : order? stored v = none) (hw : order? stored w = none)
  /-- The stored value has a place beside both. -/
  | placed {p q r : List ℚ} {o o' : Ordering} (hle : q ≤ r) (hv : order? stored v = some o)
      (ho : o.Compares p q) (hw : order? stored w = some o') (ho' : o'.Compares p r)

namespace Beside

variable {stored : Json} {v w : Value} {q r : List ℚ}

/-- The stored value is read without regard to the operand. -/
theorem of_read {α : Type} (place : α → List ℚ) {read? : Option α} {f g : α → Ordering} (hle : q ≤ r)
    (hv : order? stored v = read?.map f) (hf : ∀ a, (f a).Compares (place a) q)
    (hw : order? stored w = read?.map g) (hg : ∀ a, (g a).Compares (place a) r) :
    Beside stored v w := by
  cases read? with
  | none => exact .apart hv hw
  | some a => exact .placed hle hv (hf a) hw (hg a)

/-- The stored value is compared in floating point. -/
theorem of_float (x : Binary64) {y z : Binary64} (hy : y ≠ .nan) (hz : z ≠ .nan)
    (hle : (float y).place ≤ (float z).place) (hv : order? stored v = x.compare? y)
    (hw : order? stored w = x.compare? z) : Beside stored v w := by
  by_cases hx : x = .nan
  · subst hx
    exact .apart hv hw
  · obtain ⟨o, hxy, ho⟩ := Binary64.compare?_compares hx hy
    obtain ⟨o', hxz, ho'⟩ := Binary64.compare?_compares hx hz
    exact .placed hle (hv.trans hxy) ho (hw.trans hxz) ho'

/-- Integers are compared as they are where the stored one has 64 bits with a sign, and else in floating
point. -/
theorem of_int (n : JsonNumber) {i j : Int} (hi : inInt64 i = true) (hj : inInt64 j = true) (h : i ≤ j)
    (hv : order? stored v = compareInt? n i) (hw : order? stored w = compareInt? n j) :
    Beside stored v w := by
  have hsize : ∀ {k : Int}, inInt64 k = true → k.natAbs.log2 ≤ 1022 := by
    intro k hk
    have hdouble : twoTo 64 = 2 * twoTo 63 := by decide
    rw [inInt64_iff] at hk
    exact log2_le_of_lt (by omega)
  have hfloat : ∀ x : Binary64, order? stored v = x.compare? (.ofInt i) →
      order? stored w = x.compare? (.ofInt j) → Beside stored v w := fun x =>
    of_float x (Binary64.ofInt_ne_nan (hsize hi)) (Binary64.ofInt_ne_nan (hsize hj))
      (Binary64.place_ofInt_le (hsize hi) (hsize hj) h)
  cases n with
  | float x => exact hfloat x hv hw
  | int a =>
    by_cases ha : inInt64 a = true
    · simp only [compareInt?, ha, if_true] at hv hw
      have hle : (i : ℚ) ≤ j := Int.cast_le.mpr h
      exact .placed (singleton_le_singleton hle) hv (compares_last (compares_int a i)) hw
        (compares_last (compares_int a j))
    · simp only [compareInt?, ha, Bool.false_eq_true, if_false] at hv hw
      exact hfloat _ hv hw

/-! What the first operand is above, so is the second; and what is above the second is above the first. -/

theorem lt (h : Beside stored v w) (hv : order? stored v = some .lt) : order? stored w = some .lt := by
  cases h with
  | apart hnone => simp [hnone] at hv
  | @placed p q r o o' hle hv' ho hw ho' =>
    obtain rfl : o = .lt := Option.some.inj (hv'.symm.trans hv)
    rw [hw, ho'.eq_lt.mpr (lt_of_lt_of_le ho hle)]

theorem gt (h : Beside stored v w) (hw : order? stored w = some .gt) : order? stored v = some .gt := by
  cases h with
  | apart _ hnone => simp [hnone] at hw
  | @placed p q r o o' hle hv ho hw' ho' =>
    obtain rfl : o' = .gt := Option.some.inj (hw'.symm.trans hw)
    rw [hv, ho.eq_gt.mpr (lt_of_le_of_lt hle ho')]

theorem le (h : Beside stored v w) (hv : order? stored v = some .lt ∨ order? stored v = some .eq) :
    order? stored w = some .lt ∨ order? stored w = some .eq := by
  cases h with
  | apart hnone => simp [hnone] at hv
  | @placed p q r o o' hle hv' ho hw ho' =>
    simp only [hv', Option.some.injEq] at hv
    have hpq : p ≤ q := ho.ne_gt.mp (by rcases hv with rfl | rfl <;> exact nofun)
    have hne : o' ≠ .gt := ho'.ne_gt.mpr (hpq.trans hle)
    rw [hw]
    cases o' <;> simp at hne ⊢

theorem ge (h : Beside stored v w) (hw : order? stored w = some .gt ∨ order? stored w = some .eq) :
    order? stored v = some .gt ∨ order? stored v = some .eq := by
  cases h with
  | apart _ hnone => simp [hnone] at hw
  | @placed p q r o o' hle hv ho hw' ho' =>
    simp only [hw', Option.some.injEq] at hw
    have hrp : r ≤ p := ho'.ne_lt.mp (by rcases hw with rfl | rfl <;> exact nofun)
    have hne : o ≠ .lt := ho.ne_lt.mpr (hle.trans hrp)
    rw [hv]
    cases o <;> simp at hne ⊢

end Beside

/-- **Beside a stored value, operands of a kind keep their order.** -/
theorem AtMost.beside {v w : Value} (h : v.AtMost w) (stored : Json) : Beside stored v w := by
  cases h with
  | @bool b c h =>
    have hle : (Value.bool b).place ≤ (Value.bool c).place :=
      singleton_le_singleton (by have := Bool.le_iff_imp.mp h; cases b <;> cases c <;> simp_all)
    cases stored with
    | bool a => exact .placed hle rfl (compares_bool a b) rfl (compares_bool a c)
    | _ => exact .apart rfl rfl
  | int hm hn h =>
    cases stored with
    | num n => exact .of_int n hm hn h rfl rfl
    | str s =>
      exact .of_read (fun a : Int => [(a : ℚ)]) (singleton_le_singleton (Int.cast_le.mpr h)) rfl
        (fun a => compares_last (compares_int a _)) rfl fun a => compares_last (compares_int a _)
    | _ => exact .apart rfl rfl
  | float hx hy h =>
    cases stored with
    | num n => exact .of_float n.toFloat hx hy h rfl rfl
    | str s =>
      cases hread : readFloat? (Text.trim s) with
      | none => exact .apart (by simp [order?, hread]) (by simp [order?, hread])
      | some y => exact .of_float y hx hy h (by simp [order?, hread]) (by simp [order?, hread])
    | _ => exact .apart rfl rfl
  | decimal h =>
    have hle := singleton_le_singleton h
    cases stored with
    | num n =>
      exact .of_read (fun a => [a.value]) hle rfl (fun a => compares_last (a.order_compares _)) rfl
        fun a => compares_last (a.order_compares _)
    | str s =>
      exact .of_read (fun a => [a.value]) hle rfl (fun a => compares_last (a.order_compares _)) rfl
        fun a => compares_last (a.order_compares _)
    | _ => exact .apart rfl rfl
  | text h =>
    exact .of_read (fun s => (Value.text s).place) h rfl (fun s => Text.compareText_compares s _) rfl
      fun s => Text.compareText_compares s _
  | date h =>
    cases stored with
    | str s =>
      exact .of_read Calendar.Date.numbers h (order?_date s _) (fun a => a.order_compares _)
        (order?_date s _) fun a => a.order_compares _
    | _ => exact .apart rfl rfl
  | dateTime h =>
    cases stored with
    | str s =>
      exact .of_read Calendar.DateTime.numbers h (order?_dateTime s _) (fun a => a.order_compares _)
        (order?_dateTime s _) fun a => a.order_compares _
    | _ => exact .apart rfl rfl
  | time h =>
    cases stored with
    | str s =>
      exact .of_read Calendar.TimeOfDay.numbers h (order?_time s _) (fun a => a.order_compares _)
        (order?_time s _) fun a => a.order_compares _
    | _ => exact .apart rfl rfl
  | uuid h =>
    cases stored with
    | str s =>
      exact .of_read (fun a : Uuid => [(a.value : ℚ)]) (singleton_le_singleton (Nat.cast_le.mpr h)) rfl
        (fun a => compares_last (a.order_compares _)) rfl fun a => compares_last (a.order_compares _)
    | _ => exact .apart rfl rfl

end Value

namespace Filter

open Value

variable {path : String} {v w : Value} {row : Json}

/-! ### Comparisons of rows -/

theorem finds_eq_iff {stored : Json} :
    Comparator.eq.finds v stored = true ↔ order? stored v = some .eq := beq_iff_eq

theorem finds_lt_iff {stored : Json} :
    Comparator.lt.finds v stored = true ↔ order? stored v = some .lt := beq_iff_eq

theorem finds_gt_iff {stored : Json} :
    Comparator.gt.finds v stored = true ↔ order? stored v = some .gt := beq_iff_eq

theorem finds_lte_iff {stored : Json} : Comparator.lte.finds v stored = true ↔
    order? stored v = some .lt ∨ order? stored v = some .eq := by
  simp [Comparator.finds, Comparator.usesPattern, Comparator.holds]

theorem finds_gte_iff {stored : Json} : Comparator.gte.finds v stored = true ↔
    order? stored v = some .gt ∨ order? stored v = some .eq := by
  simp [Comparator.finds, Comparator.usesPattern, Comparator.holds]

/-- A comparison finds what two others find between them, among the values reached. -/
theorem holds_iff_or {c c₁ c₂ : Comparator} (hv : v ≠ .null)
    (h : ∀ stored, c.finds v stored = true ↔ c₁.finds v stored = true ∨ c₂.finds v stored = true) :
    (leaf c path v).holds row = true ↔
      (leaf c₁ path v).holds row = true ∨ (leaf c₂ path v).holds row = true := by
  have hexists : ∀ c : Comparator, (leaf c path v).holds row = true ↔
      ∃ stored ∈ row.reach path, c.finds v stored = true := fun c =>
    holds_iff_exists (c.asksMissing_of_ne_null hv)
  rw [hexists, hexists, hexists, ← exists_or]
  refine exists_congr fun stored => ?_
  rw [h, and_or_left]

/-- **At most is less or equal**, whichever of the values reached decides. -/
theorem holds_lte_iff (h : v ≠ .null) : (leaf .lte path v).holds row = true ↔
    (leaf .lt path v).holds row = true ∨ (leaf .eq path v).holds row = true := by
  refine holds_iff_or h fun stored => ?_
  rw [finds_lte_iff, finds_lt_iff, finds_eq_iff]

/-- **At least is greater or equal.** -/
theorem holds_gte_iff (h : v ≠ .null) : (leaf .gte path v).holds row = true ↔
    (leaf .gt path v).holds row = true ∨ (leaf .eq path v).holds row = true := by
  refine holds_iff_or h fun stored => ?_
  rw [finds_gte_iff, finds_gt_iff, finds_eq_iff]

/-- What is found with one operand is found with the other, among the values reached. -/
theorem holds_of_finds {c : Comparator} (hv : v ≠ .null) (hw : w ≠ .null)
    (h : ∀ stored, c.finds v stored = true → c.finds w stored = true)
    (hholds : (leaf c path v).holds row = true) : (leaf c path w).holds row = true := by
  rw [holds_iff_exists (Comparator.asksMissing_of_ne_null hv c)] at hholds
  rw [holds_iff_exists (Comparator.asksMissing_of_ne_null hw c)]
  obtain ⟨stored, hreached, hfinds⟩ := hholds
  exact ⟨stored, hreached, h stored hfinds⟩

/-- Of one value, just one of the three is found if it can be compared, and else none. -/
theorem countP_finds (stored : Json) (v : Value) :
    [Comparator.lt, .eq, .gt].countP (fun c => c.finds v stored) =
      if (order? stored v).isSome then 1 else 0 := by
  simp only [List.countP_cons, List.countP_nil, Comparator.finds, Comparator.usesPattern,
    Comparator.holds]
  cases order? stored v with
  | none => rfl
  | some o => cases o <;> rfl

/-- **Range comparisons follow the order**: "at most" is "less" or "equal" and "at least" is "greater" or
"equal"; of a single value that is reached, just one of "less", "equal" and "greater" holds if it can be
compared with the operand, and none else; and what is below a threshold is below every higher one, what is
above a threshold above every lower one, also where several values are reached. -/
theorem ranges_follow_the_order (path : String) :
    (∀ v, v ≠ .null → ∀ row,
      ((leaf .lte path v).holds row = true ↔
          (leaf .lt path v).holds row = true ∨ (leaf .eq path v).holds row = true) ∧
        ((leaf .gte path v).holds row = true ↔
          (leaf .gt path v).holds row = true ∨ (leaf .eq path v).holds row = true) ∧
        ∀ stored, row.reach path = [stored] →
          [Comparator.lt, .eq, .gt].countP (fun c => (leaf c path v).holds row) =
            if (order? stored v).isSome then 1 else 0) ∧
      ∀ v w, v.AtMost w → ∀ row,
        ((leaf .lt path v).holds row = true → (leaf .lt path w).holds row = true) ∧
          ((leaf .lte path v).holds row = true → (leaf .lte path w).holds row = true) ∧
          ((leaf .gt path w).holds row = true → (leaf .gt path v).holds row = true) ∧
          ((leaf .gte path w).holds row = true → (leaf .gte path v).holds row = true) := by
  constructor
  · intro v hv row
    refine ⟨holds_lte_iff hv, holds_gte_iff hv, ?_⟩
    intro stored hreach
    simp only [holds_of_reach hreach hv]
    exact countP_finds stored v
  · intro v w hle row
    obtain ⟨hv, hw⟩ := hle.ne_null
    have hbeside := hle.beside
    refine ⟨?_, ?_, ?_, ?_⟩
    · refine holds_of_finds hv hw fun stored hfinds => ?_
      exact finds_lt_iff.mpr ((hbeside stored).lt (finds_lt_iff.mp hfinds))
    · refine holds_of_finds hv hw fun stored hfinds => ?_
      exact finds_lte_iff.mpr ((hbeside stored).le (finds_lte_iff.mp hfinds))
    · refine holds_of_finds hw hv fun stored hfinds => ?_
      exact finds_gt_iff.mpr ((hbeside stored).gt (finds_gt_iff.mp hfinds))
    · refine holds_of_finds hw hv fun stored hfinds => ?_
      exact finds_gte_iff.mpr ((hbeside stored).ge (finds_gte_iff.mp hfinds))

/-- The number 2.5. -/
def twoAndAHalf : Binary64 := .finite false 5629499534213120 (-51)

/-- A journey with the miles of its two legs, one of them written as a text, and the miles before it. -/
def journey : Json := .obj [("legs", .arr [.int 3, .str " 12"]), ("before", .num (.float twoAndAHalf))]

theorem ranges_follow_the_order_journey :
    Value.int 5 ≠ .null ∧ (Value.int 5).AtMost (.int 7) ∧
      (leaf .lte "legs" (.int 5)).holds journey = true ∧ (leaf .lt "legs" (.int 7)).holds journey = true ∧
      (leaf .gt "legs" (.int 5)).holds journey = true ∧
      journey.reach "before" = [.num (.float twoAndAHalf)] ∧
      [Comparator.lt, .eq, .gt].countP (fun c => (leaf c "before" (.int 5)).holds journey) = 1 := by
  have hnull : Value.int 5 ≠ .null := nofun
  have hle : (Value.int 5).AtMost (.int 7) := .int (by decide) (by decide) (by decide)
  have hreach : journey.reach "before" = [.num (.float twoAndAHalf)] := rfl
  have hshort : (leaf .lt "legs" (.int 5)).holds journey = true := by decide +kernel
  have hlong : (leaf .gt "legs" (.int 7)).holds journey = true := by decide +kernel
  obtain ⟨hsame, hthresholds⟩ := ranges_follow_the_order "legs"
  obtain ⟨hlt, -, hgt, -⟩ := hthresholds _ _ hle journey
  obtain ⟨hsingle, -⟩ := ranges_follow_the_order "before"
  exact ⟨hnull, hle, (hsame _ hnull journey).1.mpr (.inl hshort), hlt hshort, hgt hlong, hreach,
    ((hsingle _ hnull journey).2.2 _ hreach).trans (by decide +kernel)⟩

end Filter

end Filterbook

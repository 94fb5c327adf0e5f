import Filterbook.Value.Basic
import Filterbook.Proofs.Number.Rounding
import Mathlib.Data.List.Lex

/-!
# The place of a value among its kind

Values of one kind stand in an order of their own: numbers by what they are worth, texts by their
characters, days and times from the earlier to the later. The numbers that decide, one after another, are
the place of a value; places are ordered by the first number in which they differ.

## What is proved

* `Date.order_compares`, `TimeOfDay.order_compares`, `DateTime.order_compares`,
  `Decimal.order_compares`, `Uuid.order_compares`, `Text.compareText_compares`,
  `Number.Binary64.compare?_compares`: the comparisons of the kinds are the order of places.
* `Number.Binary64.place_ofInt_le`: an integer keeps its place in floating point.
-/

namespace Filterbook

open Number

section

variable {α : Type} [LinearOrder α] {x y : α} {xs ys : List α}

/-- A first comparison, and a second one where the first finds no difference, order longer lists. -/
theorem compares_then {o o' : Ordering} (h : o.Compares x y) (h' : o'.Compares xs ys) :
    (o.then o').Compares (x :: xs) (y :: ys) := by
  cases o with
  | lt => exact List.cons_lt_cons_iff.mpr (.inl h)
  | gt => exact List.cons_lt_cons_iff.mpr (.inl h)
  | eq =>
    obtain rfl : x = y := h
    cases o' with
    | lt => exact List.cons_lt_cons_iff.mpr (.inr ⟨rfl, h'⟩)
    | gt => exact List.cons_lt_cons_iff.mpr (.inr ⟨rfl, h'⟩)
    | eq => exact congrArg (x :: ·) h'

theorem compares_last {o : Ordering} (h : o.Compares x y) : o.Compares [x] [y] := by
  have hnone : Ordering.eq.Compares ([] : List α) [] := rfl
  simpa using compares_then h hnone

theorem singleton_le_singleton (h : x ≤ y) : [x] ≤ [y] := by
  rcases h.lt_or_eq with hlt | rfl
  · exact (compares_last (o := .lt) hlt).le
  · exact le_rfl

end

/-- Integers compare like the fractions that they are. -/
theorem compares_int (m n : Int) : (compare m n).Compares (m : ℚ) (n : ℚ) := by
  rw [Int.cast_strictMono.compares, ← cmp_eq_compare]
  exact cmp_compares m n

theorem compares_nat (m n : Nat) : (compare m n).Compares (m : ℚ) (n : ℚ) := by
  rw [Nat.strictMono_cast.compares, ← cmp_eq_compare]
  exact cmp_compares m n

/-! ### Days and times -/

namespace Calendar

/-- Year, month and day. -/
def Date.numbers (d : Date) : List ℚ := [(d.year : ℚ), d.month, d.day]

/-- Hour, minute, second and nanoseconds. -/
def TimeOfDay.numbers (t : TimeOfDay) : List ℚ := [(t.hour : ℚ), t.minute, t.second, t.nano]

/-- The numbers of the day, and then those of the time. -/
def DateTime.numbers (t : DateTime) : List ℚ := t.date.numbers ++ t.time.numbers

theorem Date.numbers_inj {a b : Date} : a.numbers = b.numbers ↔ a = b := by
  cases a
  cases b
  simp [numbers]

theorem TimeOfDay.numbers_inj {a b : TimeOfDay} : a.numbers = b.numbers ↔ a = b := by
  cases a
  cases b
  simp [numbers]

theorem DateTime.numbers_inj {a b : DateTime} : a.numbers = b.numbers ↔ a = b := by
  constructor
  · intro h
    obtain ⟨hdate, htime⟩ := List.append_inj h rfl
    rw [Date.numbers_inj] at hdate
    rw [TimeOfDay.numbers_inj] at htime
    cases a
    cases b
    exact congr (congrArg DateTime.mk hdate) htime
  · rintro rfl
    rfl

/-- A day is earlier when its year is, or in the same year its month, or in the same month its day. -/
instance : LT Date := ⟨fun a b => a.numbers < b.numbers⟩

instance : LE Date := ⟨fun a b => a.numbers ≤ b.numbers⟩

theorem Date.order_compares (a b : Date) : (a.order b).Compares a.numbers b.numbers :=
  compares_then (compares_int ..) (compares_then (compares_nat ..) (compares_last (compares_nat ..)))

theorem TimeOfDay.order_compares (a b : TimeOfDay) : (a.order b).Compares a.numbers b.numbers :=
  compares_then (compares_nat ..) (compares_then (compares_nat ..) (compares_then (compares_nat ..)
    (compares_last (compares_nat ..))))

theorem DateTime.order_compares (a b : DateTime) : (a.order b).Compares a.numbers b.numbers := by
  rw [order, Date.order, Ordering.then_assoc, Ordering.then_assoc]
  exact compares_then (compares_int ..) (compares_then (compares_nat ..) (compares_then (compares_nat ..)
    (a.time.order_compares b.time)))

end Calendar

/-! ### Numbers and identifiers -/

namespace Number.Decimal

/-- What a decimal number is worth. -/
def value (d : Decimal) : ℚ := d.coefficient / tenTo d.scale

theorem tenTo_pos (n : Nat) : (0 : ℚ) < tenTo n := Nat.cast_pos.mpr (Nat.pow_pos (by decide))

theorem order_compares (a b : Decimal) : (a.order b).Compares a.value b.value := by
  have hpos : (0 : ℚ) < tenTo a.scale * tenTo b.scale := mul_pos (tenTo_pos _) (tenTo_pos _)
  have hmono : StrictMono fun q : ℚ => q * (tenTo a.scale * tenTo b.scale) :=
    fun _ _ h => mul_lt_mul_of_pos_right h hpos
  have ha : a.value * (tenTo a.scale * tenTo b.scale) = (a.coefficient * tenTo b.scale : Int) := by
    rw [value, ← mul_assoc, div_mul_cancel₀ _ (tenTo_pos _).ne']
    push_cast
    rfl
  have hb : b.value * (tenTo a.scale * tenTo b.scale) = (b.coefficient * tenTo a.scale : Int) := by
    rw [value, mul_comm (tenTo a.scale : ℚ), ← mul_assoc, div_mul_cancel₀ _ (tenTo_pos _).ne']
    push_cast
    rfl
  rw [← hmono.compares, ha, hb]
  exact compares_int ..

end Number.Decimal

theorem Uuid.order_compares (a b : Uuid) : (a.order b).Compares (a.value : ℚ) (b.value : ℚ) :=
  compares_nat ..

/-! ### Values -/

namespace Value

/-- The numbers that a value is ordered by among the values of its kind, the weightiest first. Infinities
stand at the ends of the floating-point numbers; what is no number, and what has no order, has none. -/
def place : Value → List ℚ
  | bool b => [if b then 1 else 0]
  | int n => [(n : ℚ)]
  | float .nan => []
  | float (.infinite negative) => [if negative then -1 else 1]
  | float x => [0, x.value]
  | decimal d => [d.value]
  | text s => s.toList.map fun c => (c.toNat : ℚ)
  | date d => d.numbers
  | dateTime t => t.numbers
  | time t => t.numbers
  | uuid u => [(u.value : ℚ)]
  | null => []
  | json _ => []
  | list _ => []

end Value

/-! ### Texts and floating-point numbers -/

theorem compares_bool (a b : Bool) : (compare a b).Compares (Value.bool a).place (Value.bool b).place := by
  cases a <;> cases b <;> simp [Value.place, compare, List.cons_lt_cons_iff]

namespace Text

theorem compareChars_compares (s t : List Char) :
    (compareChars s t).Compares (s.map fun c => (c.toNat : ℚ)) (t.map fun c => (c.toNat : ℚ)) := by
  induction s generalizing t with
  | nil =>
    cases t with
    | nil => rfl
    | cons b t => exact List.nil_lt_cons ..
  | cons a s ih =>
    cases t with
    | nil => exact List.nil_lt_cons ..
    | cons b t => exact compares_then (compares_nat ..) (ih t)

/-- Texts compare as the numbers of their characters. -/
theorem compareText_compares (s t : String) :
    (compareText s t).Compares (Value.text s).place (Value.text t).place :=
  compareChars_compares s.toList t.toList

/-- Texts that compare as equal are the same. -/
theorem compareText_eq_iff {s t : String} : compareText s t = .eq ↔ s = t := by
  rw [(compareText_compares s t).eq_eq]
  constructor
  · intro h
    have hinj : Function.Injective fun c : Char => (c.toNat : ℚ) :=
      fun c d hcd => Char.toNat_inj.mp (Nat.cast_injective hcd)
    exact String.ext (List.map_injective_iff.mpr hinj h)
  · rintro rfl
    rfl

end Text

namespace Number.Binary64

variable {x y : Binary64}

/-- Numbers compare by their places, the infinities at the ends. -/
theorem compare?_compares (hx : x ≠ nan) (hy : y ≠ nan) :
    ∃ o, x.compare? y = some o ∧ o.Compares (Value.float x).place (Value.float y).place := by
  cases x with
  | nan => exact absurd rfl hx
  | infinite s =>
    cases y with
    | nan => exact absurd rfl hy
    | infinite t => exact ⟨_, rfl, by cases s <;> cases t <;> simp [Value.place, compare, List.cons_lt_cons_iff]⟩
    | finite t n f => exact ⟨_, rfl, by cases s <;> simp [Value.place, List.cons_lt_cons_iff]⟩
  | finite s m e =>
    cases y with
    | nan => exact absurd rfl hy
    | infinite t => exact ⟨_, rfl, by cases t <;> simp [Value.place, List.cons_lt_cons_iff]⟩
    | finite t n f =>
      refine ⟨_, compare?_finite s t m n e f, compares_then (o := .eq) rfl (compares_last ?_)⟩
      rw [← cmp_eq_compare]
      exact cmp_compares ..

theorem place_ofInt {n : Int} (hsize : n.natAbs.log2 ≤ 1022) :
    (Value.float (ofInt n)).place = [0, (rounded n : ℚ)] := by
  obtain ⟨s, m, e, heq, hvalue⟩ := ofInt_eq hsize
  rw [heq, ← hvalue]
  rfl

theorem ofInt_ne_nan {n : Int} (hsize : n.natAbs.log2 ≤ 1022) : ofInt n ≠ nan := by
  obtain ⟨s, m, e, heq, -⟩ := ofInt_eq hsize
  rw [heq]
  exact nofun

/-- Integers keep their order in floating point, though some become equal. -/
theorem place_ofInt_le {m n : Int} (hm : m.natAbs.log2 ≤ 1022) (hn : n.natAbs.log2 ≤ 1022) (h : m ≤ n) :
    (Value.float (ofInt m)).place ≤ (Value.float (ofInt n)).place := by
  rw [place_ofInt hm, place_ofInt hn]
  exact List.cons_le_cons 0 (singleton_le_singleton (Int.cast_le.mpr (rounded_mono h)))

end Number.Binary64

end Filterbook

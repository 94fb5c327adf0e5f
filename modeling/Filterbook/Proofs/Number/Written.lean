import Filterbook.Number.Decimal
import Filterbook.Proofs.Text.Blank
import Mathlib.Algebra.Group.Nat.Defs
import Mathlib.Data.List.Basic
import Mathlib.Tactic.SplitIfs

/-!
# Written numbers

The digits of a number are read as the number, also with zeros in front, and so is an integer with its
sign. A decimal number is read with the places that it is written with. Only the minus of a zero is lost:
it is written, but digits alone never give a zero a sign.

## What is proved

* `digitsValue_padDigits`, `length_padDigits`: digits of one width, and the number that they write.
* `readInt?_intDigits`: integers.
* `Decimal.readPlain?_chars`: decimal numbers.
* `Decimal.not_isMinusZero_of_readPlain?`: without an exponent no zero is read with a minus.
-/

namespace Filterbook.Number

/-! ### Digits -/

theorem valueFrom_append (start : Nat) (digits more : List Char) :
    valueFrom start (digits ++ more) = valueFrom (valueFrom start digits) more :=
  List.foldl_append

/-- More digits write no smaller number. -/
theorem le_valueFrom (start : Nat) (digits : List Char) : start ≤ valueFrom start digits := by
  induction digits generalizing start with
  | nil => exact Nat.le_refl start
  | cons c digits ih => exact Nat.le_trans (by omega) (ih (10 * start + digitValue c))

/-- Zeros in front make no difference. -/
theorem digitsValue_zeros (count : Nat) (digits : List Char) :
    digitsValue (List.replicate count '0' ++ digits) = digitsValue digits := by
  induction count with
  | zero => rfl
  | succ count ih => exact ih

theorem digitsValue_padDigits (width n : Nat) : digitsValue (padDigits width n) = n := by
  rw [padDigits, digitsValue_zeros, digitsValue_natDigits]

theorem isDigit_of_mem_padDigits {width n : Nat} {c : Char} (hc : c ∈ padDigits width n) :
    isDigit c = true := by
  rcases List.mem_append.mp hc with hc | hc
  · rw [(List.mem_replicate.mp hc).2]
    rfl
  · exact isDigit_of_mem_natDigits hc

/-- Digits to a base, one more for each division by it: a number below a power of the base has no more of
them than the power has factors. -/
theorem length_digits_le {base : Nat} {digits : Nat → List Char}
    (hdigits : ∀ n, (digits n).length = if n < base then 1 else (digits (n / base)).length + 1)
    {width n : Nat} (hwidth : 0 < width) (h : n < base ^ width) : (digits n).length ≤ width := by
  induction width generalizing n with
  | zero => omega
  | succ width ih =>
    rw [hdigits]
    split_ifs with hn
    · exact hwidth
    · have hpos : 0 < width := by
        rcases Nat.eq_zero_or_pos width with rfl | hpos
        · exact absurd (by simpa using h) hn
        · exact hpos
      exact Nat.succ_le_succ (ih hpos (Nat.div_lt_of_lt_mul (Nat.pow_succ' ▸ h)))

theorem length_natDigits (n : Nat) :
    (natDigits n).length = if n < 10 then 1 else (natDigits (n / 10)).length + 1 := by
  rw [natDigits]
  split_ifs <;> simp

theorem length_padDigits {width n : Nat} (hwidth : 0 < width) (h : n < 10 ^ width) :
    (padDigits width n).length = width := by
  have hle := length_digits_le length_natDigits hwidth h
  rw [padDigits, List.length_append, List.length_replicate]
  omega

theorem le_length_padDigits (width n : Nat) : width ≤ (padDigits width n).length := by
  rw [padDigits, List.length_append, List.length_replicate]
  omega

theorem padDigits_ne_nil (width n : Nat) : padDigits width n ≠ [] :=
  List.append_ne_nil_of_right_ne_nil _ (natDigits_ne_nil n)

/-! ### Integers -/

/-- What begins with a digit begins with no sign. -/
theorem takeSign_of_digit {cs : List Char} (h : ∀ c ∈ cs.head?, isDigit c = true) :
    takeSign cs = (false, cs) := by
  unfold takeSign
  split
  · exact absurd (h '-' rfl) (by decide)
  · exact absurd (h '+' rfl) (by decide)
  · rfl

/-- A sign is taken from digits and what follows them. -/
theorem takeSign_signed {digits : List Char} (hall : ∀ c ∈ digits, isDigit c = true) (hne : digits ≠ [])
    (negative : Bool) (rest : List Char) :
    takeSign ((if negative then ['-'] else []) ++ (digits ++ rest)) = (negative, digits ++ rest) := by
  cases negative with
  | true => rfl
  | false =>
    refine takeSign_of_digit fun c hc => hall c ?_
    rw [if_neg Bool.false_ne_true, List.nil_append, List.head?_append_of_ne_nil digits hne] at hc
    exact List.mem_of_mem_head? hc

theorem readDigits?_eq_some_iff {cs : List Char} {n : Nat} : readDigits? cs = some n ↔
    cs ≠ [] ∧ (∀ c ∈ cs, isDigit c = true) ∧ digitsValue cs = n := by
  simp [readDigits?, and_assoc]

theorem readDigits?_natDigits (n : Nat) : readDigits? (natDigits n) = some n :=
  readDigits?_eq_some_iff.mpr
    ⟨natDigits_ne_nil n, fun _ => isDigit_of_mem_natDigits, digitsValue_natDigits n⟩

/-- **An integer is read from its digits and its sign.** -/
theorem readInt?_intDigits (n : Int) : readInt? (intDigits n) = some n := by
  by_cases hn : n < 0
  · have habs : -(n.natAbs : Int) = n := by omega
    have hsign : takeSign (intDigits n) = (true, natDigits n.natAbs) := by rw [intDigits, if_pos hn, takeSign]
    simp only [readInt?, hsign, readDigits?_natDigits, if_true]
    exact congrArg some habs
  · have habs : (n.natAbs : Int) = n := by omega
    have hsign : takeSign (intDigits n) = (false, natDigits n.natAbs) := by
      rw [intDigits, if_neg hn]
      exact takeSign_of_digit fun c hc => isDigit_of_mem_natDigits (List.mem_of_mem_head? hc)
    simp only [readInt?, hsign, readDigits?_natDigits, Bool.false_eq_true, if_false]
    exact congrArg some habs

/-- A written integer has no blanks. -/
theorem isBlank_of_mem_intDigits {n : Int} {c : Char} (hc : c ∈ intDigits n) : Text.isBlank c = false := by
  unfold intDigits at hc
  split_ifs at hc
  · rcases List.mem_cons.mp hc with rfl | hc
    · decide
    · exact Text.isBlank_of_isDigit (isDigit_of_mem_natDigits hc)
  · exact Text.isBlank_of_isDigit (isDigit_of_mem_natDigits hc)

/-! ### Decimal numbers -/

namespace Decimal

/-- A zero with a minus. -/
def IsMinusZero (d : Decimal) : Prop := d.negative = true ∧ d.digits = 0

/-- A number without the minus of a zero. -/
def unsigned (d : Decimal) : Decimal := { d with negative := d.negative && d.digits ≠ 0 }

theorem unsigned_eq_self_iff {d : Decimal} : d.unsigned = d ↔ ¬ d.IsMinusZero := by
  obtain ⟨_, _, _, _, _⟩ := d
  simp [unsigned, IsMinusZero]

/-- The minus of a zero makes no difference in the order. -/
theorem unsigned_order (d : Decimal) : d.unsigned.order d = .eq := by
  have hcoefficient : d.unsigned.coefficient = d.coefficient := by
    unfold coefficient unsigned
    by_cases hzero : d.digits = 0
    · simp [hzero]
    · simp [hzero]
  rw [order, hcoefficient]
  exact Std.ReflCmp.compare_self

theorem make?_eq_some_iff {negative : Bool} {digits scale : Nat} {d : Decimal} :
    make? negative digits scale = some d ↔
      d.negative = negative ∧ d.digits = digits ∧ d.scale = scale := by
  unfold make?
  split_ifs with hsmall hscale
  · rw [Option.some.injEq]
    constructor
    · rintro rfl
      exact ⟨rfl, rfl, rfl⟩
    · rintro ⟨rfl, rfl, rfl⟩
      rfl
  · refine iff_of_false nofun ?_
    rintro ⟨rfl, rfl, rfl⟩
    exact hscale d.scale_le
  · refine iff_of_false nofun ?_
    rintro ⟨rfl, rfl, rfl⟩
    exact hsmall d.small

theorem Reading.finish_eq_some_iff {negative : Bool} {r : Reading} {d : Decimal} :
    r.finish negative = some d ↔ r.started = true ∧ d.negative = (negative && r.digits ≠ 0) ∧
      d.digits = r.digits ∧ d.scale = r.scale := by
  rw [finish, Option.ite_none_right_eq_some, make?_eq_some_iff]

/-- Digits for which there is room are taken one by one. -/
theorem readFrom_digits (negative : Bool) {digits : List Char} (hall : ∀ c ∈ digits, isDigit c = true)
    {start : Nat} (hsmall : valueFrom start digits < twoTo 96) {places : Option Nat}
    (hplaces : ∀ p ∈ places, p + digits.length ≤ 28) (started : Bool) (rest : List Char) :
    readFrom negative ⟨start, places, started⟩ (digits ++ rest) =
      readFrom negative ⟨valueFrom start digits, places.map (· + digits.length),
        started || !digits.isEmpty⟩ rest := by
  induction digits generalizing start places started with
  | nil => cases places <;> simp [valueFrom]
  | cons c digits ih =>
    rw [List.forall_mem_cons] at hall
    have hmark : c ≠ '_' := by
      rintro rfl
      exact absurd hall.1 (by decide)
    have hroom : 10 * start + digitValue c < twoTo 96 :=
      Nat.lt_of_le_of_lt (le_valueFrom _ digits) hsmall
    have hfull : Reading.isFull ⟨start, places, started⟩ = false := by
      cases places with
      | none => rfl
      | some p =>
        have hp := hplaces p rfl
        rw [List.length_cons] at hp
        simp only [Reading.isFull, Option.any_some, decide_eq_false_iff_not]
        omega
    have hnext : ∀ p ∈ places.map (· + 1), p + digits.length ≤ 28 := by
      intro p hp
      obtain ⟨q, hq, rfl⟩ := Option.map_eq_some_iff.mp hp
      have := hplaces q hq
      rw [List.length_cons] at this
      omega
    rw [List.cons_append, readFrom]
    simp only [hmark, hfull, hall.1, hroom, decide_false, Bool.false_and, Bool.false_eq_true, if_false,
      if_true]
    rw [ih hall.2 hsmall hnext true]
    cases places with
    | none => simp [valueFrom]
    | some p => simp [valueFrom, Nat.add_comm, Nat.add_left_comm]

/-- The digits in front of the point, and those behind it. -/
theorem exists_chars (d : Decimal) :
    ∃ whole fraction, d.chars = (if d.negative then ['-'] else []) ++ (whole ++
        if d.scale = 0 then [] else '.' :: fraction) ∧
      (∀ c ∈ whole ++ fraction, isDigit c = true) ∧ whole ≠ [] ∧ fraction.length = d.scale ∧
      digitsValue (whole ++ fraction) = d.digits := by
  have hlength := le_length_padDigits (d.scale + 1) d.digits
  generalize hdigits : padDigits (d.scale + 1) d.digits = digits at hlength
  refine ⟨digits.take (digits.length - d.scale), digits.drop (digits.length - d.scale), ?_, ?_, ?_, ?_, ?_⟩
  · simp only [chars, hdigits, List.append_assoc]
  · rw [List.take_append_drop, ← hdigits]
    exact fun c => isDigit_of_mem_padDigits
  · refine List.ne_nil_of_length_pos ?_
    rw [List.length_take]
    omega
  · rw [List.length_drop]
    omega
  · rw [List.take_append_drop, ← hdigits, digitsValue_padDigits]

/-- **A decimal number is read as it is written**, but for the minus of a zero. -/
theorem readPlain?_chars (d : Decimal) : readPlain? d.chars = some d.unsigned := by
  obtain ⟨whole, fraction, hchars, hall, hne, hlength, hvalue⟩ := d.exists_chars
  rw [List.forall_mem_append] at hall
  obtain ⟨hwhole, hfraction⟩ := hall
  rw [digitsValue, valueFrom_append] at hvalue
  have hsmall : valueFrom (valueFrom 0 whole) fraction < twoTo 96 := hvalue ▸ d.small
  have hsign : takeSign d.chars = (d.negative, whole ++ if d.scale = 0 then [] else '.' :: fraction) :=
    hchars ▸ takeSign_signed hwhole hne d.negative _
  have hstarted : (!whole.isEmpty) = true := by simpa using hne
  simp only [readPlain?, hsign]
  rw [readFrom_digits d.negative hwhole (Nat.lt_of_le_of_lt (le_valueFrom _ fraction) hsmall) (by simp),
    Option.map_none, Bool.false_or, hstarted]
  split_ifs with hscale
  · obtain rfl : fraction = [] := List.length_eq_zero_iff.mp (hlength.trans hscale)
    have hdigits : valueFrom 0 whole = d.digits := hvalue
    rw [readFrom, Reading.finish_eq_some_iff, hdigits]
    exact ⟨rfl, rfl, rfl, hscale⟩
  · have hplaces : ∀ p ∈ some 0, p + fraction.length ≤ 28 := by
      intro p hp
      obtain rfl := Option.some.inj hp
      rw [Nat.zero_add, hlength]
      exact d.scale_le
    have hpoint : readFrom d.negative ⟨valueFrom 0 whole, none, true⟩ ('.' :: fraction) =
        readFrom d.negative ⟨valueFrom 0 whole, some 0, true⟩ (fraction ++ []) := by
      rw [List.append_nil]
      rfl
    rw [hpoint, readFrom_digits d.negative hfraction hsmall hplaces, readFrom, Reading.finish_eq_some_iff,
      hvalue]
    exact ⟨rfl, rfl, rfl, by simp [Reading.scale, unsigned, hlength]⟩

/-- A written decimal number has no blanks. -/
theorem isBlank_of_mem_chars {d : Decimal} {c : Char} (hc : c ∈ d.chars) : Text.isBlank c = false := by
  obtain ⟨whole, fraction, hchars, hall, -⟩ := d.exists_chars
  have hdigit : c ∈ whole ++ fraction → Text.isBlank c = false := fun h => Text.isBlank_of_isDigit (hall c h)
  rw [hchars, List.mem_append, List.mem_append] at hc
  rcases hc with hc | hc | hc
  · split_ifs at hc
    · rw [List.mem_singleton.mp hc]
      decide
    · cases hc
  · exact hdigit (List.mem_append_left _ hc)
  · split_ifs at hc
    · cases hc
    · rcases List.mem_cons.mp hc with rfl | hc
      · decide
      · exact hdigit (List.mem_append_right _ hc)

theorem read?_chars (d : Decimal) : read? d.chars = some d.unsigned := by
  rw [read?, readPlain?_chars]
  rfl

/-! ### Signs of zeros -/

variable {negative : Bool} {d : Decimal}

theorem Reading.not_isMinusZero_of_finish {r : Reading} (h : r.finish negative = some d) :
    ¬ d.IsMinusZero := by
  obtain ⟨-, hnegative, hdigits, -⟩ := finish_eq_some_iff.mp h
  rintro ⟨hminus, hzero⟩
  simp [← hdigits, hzero, hminus] at hnegative

theorem Reading.not_isMinusZero_of_round {r : Reading} {digit : Nat}
    (h : r.round negative digit = some d) : ¬ d.IsMinusZero := by
  unfold round at h
  split_ifs at h <;> exact not_isMinusZero_of_finish h

theorem not_isMinusZero_of_readFrom {r : Reading} {cs : List Char}
    (h : readFrom negative r cs = some d) : ¬ d.IsMinusZero := by
  induction cs generalizing r with
  | nil => exact Reading.not_isMinusZero_of_finish h
  | cons c cs ih =>
    simp only [readFrom] at h
    split_ifs at h <;> first | exact ih h | exact Reading.not_isMinusZero_of_round h

/-- **Without an exponent no zero is read with a minus.** -/
theorem not_isMinusZero_of_readPlain? {cs : List Char} (h : readPlain? cs = some d) : ¬ d.IsMinusZero :=
  not_isMinusZero_of_readFrom h

end Decimal

end Filterbook.Number

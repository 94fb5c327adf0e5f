import Filterbook.Number.Power

/-!
# Decimal digits

Numerals as lists of ASCII digits: their value, the digits of a number, and the integers written
with an optional sign.
-/

namespace Filterbook.Number

/-- One of the ten ASCII digits. -/
def isDigit (c : Char) : Bool := '0' ≤ c && c ≤ '9'

/-- The value of an ASCII digit. -/
def digitValue (c : Char) : Nat := c.toNat - 48

/-- The ASCII digit of a number below ten. -/
def digitChar (n : Nat) : Char := Char.ofNat (48 + n)

/-- The number that digits write after the number `start`. -/
def valueFrom (start : Nat) (digits : List Char) : Nat :=
  digits.foldl (fun n c => 10 * n + digitValue c) start

/-- The number that digits write; no digits write zero. -/
def digitsValue (digits : List Char) : Nat := valueFrom 0 digits

/-- The digits of a number, without leading zeros; zero has the one digit `0`. -/
def natDigits (n : Nat) : List Char :=
  if n < 10 then [digitChar n] else natDigits (n / 10) ++ [digitChar (n % 10)]

theorem isDigit_iff {c : Char} : isDigit c = true ↔ 48 ≤ c.toNat ∧ c.toNat ≤ 57 := by
  simp [isDigit, Char.le_def, UInt32.le_iff_toNat_le]

theorem isDigit_digitChar : ∀ n < 10, isDigit (digitChar n) = true := by decide

theorem isDigit_of_mem_natDigits {n : Nat} {c : Char} (hc : c ∈ natDigits n) : isDigit c = true := by
  induction n using natDigits.induct with
  | case1 n h =>
    rw [natDigits, if_pos h, List.mem_singleton] at hc
    exact hc ▸ isDigit_digitChar n h
  | case2 n h ih =>
    rw [natDigits, if_neg h, List.mem_append, List.mem_singleton] at hc
    rcases hc with hc | rfl
    · exact ih hc
    · exact isDigit_digitChar _ (Nat.mod_lt n (by decide))

theorem natDigits_ne_nil (n : Nat) : natDigits n ≠ [] := by
  rw [natDigits]
  split <;> simp

theorem digitValue_digitChar : ∀ n < 10, digitValue (digitChar n) = n := by decide

theorem digitValue_lt {c : Char} (h : isDigit c = true) : digitValue c < 10 := by
  have hrange := isDigit_iff.mp h
  unfold digitValue
  omega

/-- A digit is the one of its value. -/
theorem digitChar_digitValue {c : Char} (h : isDigit c = true) : digitChar (digitValue c) = c := by
  rw [digitChar, digitValue, Nat.add_sub_cancel' (isDigit_iff.mp h).1, Char.ofNat_toNat]

/-- The digits of a number write the number. -/
theorem digitsValue_natDigits (n : Nat) : digitsValue (natDigits n) = n := by
  induction n using natDigits.induct with
  | case1 n h =>
    rw [natDigits, if_pos h]
    show 10 * 0 + digitValue (digitChar n) = n
    rw [digitValue_digitChar n h]
    omega
  | case2 n h ih =>
    have hlast : digitValue (digitChar (n % 10)) = n % 10 :=
      digitValue_digitChar _ (Nat.mod_lt n (by decide))
    rw [natDigits, if_neg h, digitsValue, valueFrom, List.foldl_append]
    show 10 * digitsValue (natDigits (n / 10)) + digitValue (digitChar (n % 10)) = n
    rw [ih, hlast]
    omega

/-- Only zero is written with a zero in front. -/
theorem eq_zero_of_head_natDigits {n : Nat} (h : (natDigits n).head? = some '0') : n = 0 := by
  induction n using natDigits.induct with
  | case1 n hn =>
    rw [natDigits, if_pos hn, List.head?_cons, Option.some.injEq] at h
    exact (by decide : ∀ n < 10, digitChar n = '0' → n = 0) n hn h
  | case2 n hn ih =>
    obtain ⟨c, cs, hdigits⟩ := List.exists_cons_of_ne_nil (natDigits_ne_nil (n / 10))
    rw [natDigits, if_neg hn, hdigits] at h
    have hzero : n / 10 = 0 := ih (hdigits ▸ h)
    omega

/-- The digits of a number with zeros in front up to a width. -/
def padDigits (width n : Nat) : List Char :=
  let digits := natDigits n
  List.replicate (width - digits.length) '0' ++ digits

/-- The digits of an integer, after a hyphen when it is negative. -/
def intDigits (n : Int) : List Char :=
  if n < 0 then '-' :: natDigits n.natAbs else natDigits n.natAbs

/-- The text of an integer. -/
def intText (n : Int) : String := String.ofList (intDigits n)

/-- The text of a natural number. -/
def natText (n : Nat) : String := String.ofList (natDigits n)

/-- The natural number that a non-empty list of digits and nothing else writes. -/
def readDigits? (cs : List Char) : Option Nat :=
  if cs ≠ [] && cs.all isDigit then some (digitsValue cs) else none

/-- A sign taken from the front: `true` for a hyphen, `false` for a plus sign or none. -/
def takeSign : List Char → Bool × List Char
  | '-' :: cs => (true, cs)
  | '+' :: cs => (false, cs)
  | cs => (false, cs)

/-- The integer written by an optional sign and one or more digits. -/
def readInt? (cs : List Char) : Option Int :=
  let (negative, digits) := takeSign cs
  (readDigits? digits).map fun n => if negative then -(n : Int) else n

/-- The integers of 64 bits with a sign. -/
def inInt64 (n : Int) : Bool := -(twoTo 63 : Int) ≤ n && n < twoTo 63

end Filterbook.Number

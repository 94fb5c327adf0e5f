import Filterbook.Proofs.Number.Written

/-!
# Integers as they may be written

An integer is written with decimal digits, any number of them, behind a sign or without one. This module
says so by a grammar that has the integer beside its digits, apart from how digits are read, and that the
reader follows it. Of a word of 64 bits it is decided at the end whether the integer fits; a reader that
takes the digits into such a word one after the other, and gives up when one overflows it, reads the same.

## What is proved

* `readInt?_eq_some_iff`: what is read is what the grammar says.
* `readWord?_eq_filter`: digits taken into a word of 64 bits, up to the least and the greatest of them.
* `intText_eq_toString`: an integer in plain digits.
-/

namespace Filterbook.Number

variable {cs digits : List Char} {n : Int}

/-! ### The grammar -/

/-- Decimal digits with the number that they write: one digit, or one more behind a number. -/
inductive Numeral : List Char → Nat → Prop where
  /-- A digit by itself. -/
  | one {d : Nat} (hd : d < 10) : Numeral [digitChar d] d
  /-- A digit behind others makes them ten times as much. -/
  | more {digits : List Char} {n d : Nat} (h : Numeral digits n) (hd : d < 10) :
    Numeral (digits ++ [digitChar d]) (10 * n + d)

/-- Characters with the integer that they write: digits, with or without a sign in front. -/
inductive SignedNumeral : List Char → Int → Prop where
  /-- Digits without a sign. -/
  | plain {digits : List Char} {n : Nat} (h : Numeral digits n) : SignedNumeral digits n
  /-- Digits behind a plus sign. -/
  | plus {digits : List Char} {n : Nat} (h : Numeral digits n) : SignedNumeral ('+' :: digits) n
  /-- Digits behind a hyphen. -/
  | minus {digits : List Char} {n : Nat} (h : Numeral digits n) : SignedNumeral ('-' :: digits) (-n)

theorem Numeral.readDigits? {n : Nat} (h : Numeral digits n) : readDigits? digits = some n := by
  rw [readDigits?_eq_some_iff]
  induction h with
  | one hd =>
    refine ⟨List.cons_ne_nil _ _, List.forall_mem_singleton.mpr (isDigit_digitChar _ hd), ?_⟩
    rw [digitsValue, valueFrom, List.foldl_cons, List.foldl_nil, digitValue_digitChar _ hd]
    omega
  | more _ hd ih =>
    obtain ⟨-, hall, hvalue⟩ := ih
    refine ⟨by simp, ?_, ?_⟩
    · rw [List.forall_mem_append]
      exact ⟨hall, List.forall_mem_singleton.mpr (isDigit_digitChar _ hd)⟩
    · rw [digitsValue, valueFrom_append, ← digitsValue, hvalue]
      simp [valueFrom, digitValue_digitChar _ hd]

/-- More digits behind a number. -/
theorem Numeral.append {n : Nat} (h : Numeral digits n) (hcs : ∀ c ∈ cs, isDigit c = true) :
    Numeral (digits ++ cs) (valueFrom n cs) := by
  induction cs generalizing digits n with
  | nil => rwa [List.append_nil]
  | cons c cs ih =>
    rw [List.forall_mem_cons] at hcs
    have hnext : Numeral (digits ++ [c]) (10 * n + digitValue c) := by
      have hmore := h.more (digitValue_lt hcs.1)
      rwa [digitChar_digitValue hcs.1] at hmore
    rw [List.append_cons]
    exact ih hnext hcs.2

theorem readDigits?_iff_numeral {n : Nat} : readDigits? digits = some n ↔ Numeral digits n := by
  constructor
  · intro h
    obtain ⟨hne, hall, rfl⟩ := readDigits?_eq_some_iff.mp h
    obtain ⟨c, cs, rfl⟩ := List.exists_cons_of_ne_nil hne
    rw [List.forall_mem_cons] at hall
    have hfirst : Numeral [c] (digitValue c) := by
      have hone := Numeral.one (digitValue_lt hall.1)
      rwa [digitChar_digitValue hall.1] at hone
    have hvalue : digitsValue (c :: cs) = valueFrom (digitValue c) cs := by
      rw [digitsValue, valueFrom, List.foldl_cons, Nat.mul_zero, Nat.zero_add, valueFrom]
    exact hvalue ▸ hfirst.append hall.2
  · exact Numeral.readDigits?

theorem Numeral.isDigit {n : Nat} (h : Numeral digits n) : ∀ c ∈ digits, isDigit c = true :=
  (readDigits?_eq_some_iff.mp h.readDigits?).2.1

/-- The integer of a number behind a sign. -/
def signed : Bool → Nat → Int
  | true, n => -n
  | false, n => n

/-- An integer is its sign and the digits behind it. -/
theorem readInt?_eq_map :
    readInt? cs = (readDigits? (takeSign cs).2).map (signed (takeSign cs).1) := by
  rw [readInt?]
  obtain ⟨negative, digits⟩ := takeSign cs
  dsimp only
  cases negative <;> cases readDigits? digits <;> rfl

/-- **An integer is read as the grammar says.** -/
theorem readInt?_eq_some_iff : readInt? cs = some n ↔ SignedNumeral cs n := by
  simp only [readInt?_eq_map, Option.map_eq_some_iff, readDigits?_iff_numeral]
  constructor
  · rintro ⟨m, hm, rfl⟩
    unfold takeSign at *
    split at *
    · exact .minus hm
    · exact .plus hm
    · exact .plain hm
  · rintro (h | h | h)
    · have hsign : takeSign cs = (false, cs) :=
        takeSign_of_digit fun c hc => h.isDigit c (List.mem_of_mem_head? hc)
      rw [hsign]
      exact ⟨_, h, rfl⟩
    · exact ⟨_, h, rfl⟩
    · exact ⟨_, h, rfl⟩

/-- A written integer has no blanks. -/
theorem SignedNumeral.no_blank (h : SignedNumeral cs n) : ∀ c ∈ cs, Text.isBlank c = false := by
  have hdigits : ∀ {digits : List Char} {m : Nat}, Numeral digits m →
      ∀ c ∈ digits, Text.isBlank c = false := fun hm c hc => Text.isBlank_of_isDigit (hm.isDigit c hc)
  cases h with
  | plain h => exact hdigits h
  | plus h | minus h => exact List.forall_mem_cons.mpr ⟨by decide, hdigits h⟩

/-! ### Words of 64 bits -/

theorem inInt64_iff : inInt64 n = true ↔ -(twoTo 63 : Int) ≤ n ∧ n < twoTo 63 := by
  simp [inInt64]

/-- An integer as a word of 64 bits, when it is one. -/
def word? (n : Int) : Option Int := if inInt64 n then some n else none

/-- Digits taken into a word of 64 bits: for every digit the word is multiplied by ten, and then the digit
with the sign is added. Each of the two may overflow the word. -/
def accumulate? (negative : Bool) (word : Int) : List Char → Option Int
  | [] => some word
  | c :: cs =>
    if isDigit c then
      (word? (10 * word)).bind fun tenfold =>
        (word? (tenfold + signed negative (digitValue c))).bind fun next =>
          accumulate? negative next cs
    else none

/-- An integer read in words of 64 bits. -/
def readWord? (cs : List Char) : Option Int :=
  let (negative, digits) := takeSign cs
  if digits = [] then none else accumulate? negative 0 digits

variable {negative : Bool}

/-- A number that is no larger fits as well, with the same sign. -/
theorem inInt64_signed_of_le {m n : Nat} (hmn : m ≤ n) (h : inInt64 (signed negative n) = true) :
    inInt64 (signed negative m) = true := by
  rw [inInt64_iff] at h ⊢
  cases negative <;> simp only [signed] at h ⊢ <;> omega

/-- The next word, when it fits; then ten times the word fits too. -/
theorem accumulate?_cons {m : Nat} {c : Char} (hc : isDigit c = true) :
    accumulate? negative (signed negative m) (c :: cs) =
      (word? (signed negative (10 * m + digitValue c))).bind fun next =>
        accumulate? negative next cs := by
  have hten : 10 * signed negative m = signed negative (10 * m) := by
    cases negative <;> simp only [signed] <;> omega
  have hnext : signed negative (10 * m) + signed negative (digitValue c) =
      signed negative (10 * m + digitValue c) := by
    cases negative <;> simp only [signed] <;> omega
  rw [accumulate?, if_pos hc, hten]
  by_cases hword : inInt64 (signed negative (10 * m)) = true
  · rw [word?, if_pos hword, Option.bind_some, hnext]
  · have hover : ¬ inInt64 (signed negative (10 * m + digitValue c)) = true := fun h =>
      hword (inInt64_signed_of_le (Nat.le_add_right ..) h)
    rw [word?, word?, if_neg hword, if_neg hover, Option.bind_none, Option.bind_none]

/-- **Overflow is noticed in time, and never too early**: a word overflows on the way exactly when the
number of all digits does not fit, as more digits make no number smaller. -/
theorem accumulate?_eq {m : Nat} (hm : inInt64 (signed negative m) = true)
    (hcs : ∀ c ∈ cs, isDigit c = true) :
    accumulate? negative (signed negative m) cs = word? (signed negative (valueFrom m cs)) := by
  induction cs generalizing m with
  | nil => exact (if_pos hm).symm
  | cons c cs ih =>
    rw [List.forall_mem_cons] at hcs
    rw [accumulate?_cons hcs.1]
    by_cases hnext : inInt64 (signed negative (10 * m + digitValue c)) = true
    · rw [word?, if_pos hnext, Option.bind_some]
      exact ih hnext hcs.2
    · have hover : ¬ inInt64 (signed negative (valueFrom m (c :: cs))) = true := fun h =>
        hnext (inInt64_signed_of_le (le_valueFrom _ cs) h)
      rw [word?, word?, if_neg hnext, if_neg hover, Option.bind_none]

/-- What is no digit stops the reader, whatever the word is by then. -/
theorem accumulate?_of_not_digit {word : Int} (hcs : ¬ ∀ c ∈ cs, isDigit c = true) :
    accumulate? negative word cs = none := by
  induction cs generalizing word with
  | nil => exact absurd (List.forall_mem_nil _) hcs
  | cons c cs ih =>
    rw [List.forall_mem_cons] at hcs
    by_cases hc : isDigit c = true
    · simp [accumulate?, ih (not_and.mp hcs hc)]
    · rw [accumulate?, if_neg hc]

/-- **A reader that works in words of 64 bits** reads the integers that fit into one. -/
theorem readWord?_eq_filter : readWord? cs = (readInt? cs).filter inInt64 := by
  rw [readInt?_eq_map, readWord?]
  obtain ⟨negative, digits⟩ := takeSign cs
  have hzero : inInt64 (signed negative 0) = true := by cases negative <;> decide
  have hstart : signed negative 0 = 0 := by cases negative <;> rfl
  by_cases hnil : digits = []
  · subst hnil
    rfl
  by_cases hall : ∀ c ∈ digits, isDigit c = true
  · have hread : readDigits? digits = some (digitsValue digits) :=
      readDigits?_eq_some_iff.mpr ⟨hnil, hall, rfl⟩
    have hword := accumulate?_eq hzero hall
    rw [hstart] at hword
    simp [hnil, hread, hword, word?, digitsValue, Option.filter_some]
  · have hread : readDigits? digits = none := by
      rw [readDigits?, if_neg]
      simpa [hnil] using hall
    simp [hnil, hread, accumulate?_of_not_digit hall]

/-! ### Plain digits -/

theorem natDigits_eq_toDigits (n : Nat) : natDigits n = Nat.toDigits 10 n := by
  have hdigit : ∀ d < 10, digitChar d = Nat.digitChar d := by decide
  induction n using natDigits.induct with
  | case1 n h => rw [natDigits, if_pos h, Nat.toDigits_of_lt_base h, hdigit n h]
  | case2 n h ih =>
    have hlast : n % 10 < 10 := Nat.mod_lt n (by decide)
    rw [natDigits, if_neg h, ih, hdigit _ hlast, ← Nat.toDigits_of_lt_base hlast,
      Nat.toDigits_append_toDigits (by decide) (by omega) hlast, Nat.div_add_mod]

/-- **The text of an integer is the plain one.** -/
theorem intText_eq_toString (n : Int) : intText n = toString n := by
  cases n with
  | ofNat n =>
    have hn : ¬ (n : Int) < 0 := by omega
    rw [Int.ofNat_eq_natCast, intText, intDigits, if_neg hn, Int.natAbs_natCast, natDigits_eq_toDigits]
    rfl
  | negSucc n =>
    rw [intText, intDigits, if_pos (Int.negSucc_lt_zero n), Int.natAbs_negSucc, natDigits_eq_toDigits,
      String.ofList_cons]
    rfl

end Filterbook.Number

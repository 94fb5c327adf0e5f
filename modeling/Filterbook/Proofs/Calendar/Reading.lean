import Filterbook.Calendar.Pattern
import Filterbook.Proofs.Calendar.DayNumber
import Filterbook.Proofs.Text.Blank
import Mathlib.Data.List.Infix

/-!
# What patterns read

The items of a pattern take characters from the front of a text. This module says which ones: digits, as
many as there are up to a width, a year with or without a sign, marks, and blanks in front of numbers. What
is left is an end of the text.

## What is proved

* `takeNumber?_eq_some_iff`: the digits that a number takes.
* `Item.read?_eq_some_iff`, `readItems?_year_mark_iff`, `readItems?_number_mark_iff`: a number with the
  blanks in front of it, and a number or a year with a mark behind it.
* `readItems?_dateItems_iff`, `date?_of_dateItems_iff`: the day that stands in front of a text.
* `readItems?_onDay`, `fitFrom?_onDay`: the items of a clock leave the day alone.
* `readStrict?_zone`, `fit?_zone`: a zone is read behind a colon.
-/

namespace Filterbook.Calendar

open Number Text

/-! ### Digits -/

/-- The characters do not begin with a digit. -/
def NoDigitFirst (cs : List Char) : Prop := ∀ c ∈ cs.head?, isDigit c = false

/-- All characters are digits. -/
def AllDigits (cs : List Char) : Prop := ∀ c ∈ cs, isDigit c = true

instance (cs : List Char) : Decidable (AllDigits cs) := List.decidableBAll (isDigit · = true) cs

theorem takeWhile_of_noDigitFirst {cs : List Char} (h : NoDigitFirst cs) :
    cs.takeWhile isDigit = [] := by
  cases cs with
  | nil => rfl
  | cons c cs => exact List.takeWhile_cons_of_neg (by simp [h c rfl])

/-- What is taken of digits and what follows them: all of the digits, if they fit into the width and no
more of them fit. -/
theorem takeWhile_take_append_eq_iff {most : Nat} {digits rest : List Char} :
    ((digits ++ rest).take most).takeWhile isDigit = digits ↔
      AllDigits digits ∧ digits.length ≤ most ∧ (digits.length < most → NoDigitFirst rest) := by
  induction digits generalizing most with
  | nil => cases most <;> cases rest <;> simp [AllDigits, NoDigitFirst, List.takeWhile_cons]
  | cons c digits ih =>
    cases most with
    | zero => simp
    | succ most =>
      rw [List.cons_append, List.take_succ_cons, List.takeWhile_cons]
      cases hc : isDigit c with
      | false => simp [AllDigits, hc]
      | true => simpa [AllDigits, hc] using ih

/-- A number takes the digits at the front, up to its width, if there are enough of them. -/
theorem takeNumber?_eq_some_iff {least most n : Nat} {cs rest : List Char} :
    takeNumber? least most cs = some (n, rest) ↔
      ∃ digits, cs = digits ++ rest ∧ AllDigits digits ∧ least ≤ digits.length ∧
        digits.length ≤ most ∧ (digits.length < most → NoDigitFirst rest) ∧
        digitsValue digits = n := by
  simp only [takeNumber?]
  constructor
  · intro h
    split at h
    · cases h
    · next hleast =>
      obtain ⟨rfl, rfl⟩ := Prod.mk.inj (Option.some.inj h)
      generalize hdigits : (cs.take most).takeWhile isDigit = digits at *
      have hprefix : digits <+: cs :=
        hdigits ▸ (List.takeWhile_prefix isDigit).trans (List.take_prefix most cs)
      have hsplit := (List.prefix_iff_eq_append.mp hprefix).symm
      rw [hsplit, takeWhile_take_append_eq_iff] at hdigits
      obtain ⟨hall, hmost, hstop⟩ := hdigits
      exact ⟨digits, hsplit, hall, by omega, hmost, hstop, rfl⟩
  · rintro ⟨digits, rfl, hall, hleast, hmost, hstop, rfl⟩
    rw [takeWhile_take_append_eq_iff.mpr ⟨hall, hmost, hstop⟩, if_neg (by omega), List.drop_left]

/-! ### Numbers of an item -/

/-- One or two digits that write a number. -/
structure WritesNumber (digits : List Char) (n : Nat) : Prop where
  /-- They are digits. -/
  all : AllDigits digits
  /-- There is one at least. -/
  ne_nil : digits ≠ []
  /-- There are two at most. -/
  length_le : digits.length ≤ 2
  /-- They write the number. -/
  value : digitsValue digits = n

theorem takeRanged?_eq_some_iff {low high n : Nat} {cs rest : List Char} :
    takeRanged? low high cs = some (n, rest) ↔
      ∃ digits, cs = digits ++ rest ∧ WritesNumber digits n ∧
        (digits.length < 2 → NoDigitFirst rest) ∧ low ≤ n ∧ n ≤ high := by
  unfold takeRanged?
  simp only [Option.bind_eq_bind, Option.bind_eq_some_iff, Prod.exists, takeNumber?_eq_some_iff,
    Option.ite_none_right_eq_some, Bool.and_eq_true, decide_eq_true_eq, Option.some.injEq,
    Prod.mk.injEq]
  constructor
  · rintro ⟨n, rest, ⟨digits, rfl, hall, hleast, hmost, hstop, hvalue⟩, ⟨hlow, hhigh⟩, rfl, rfl⟩
    exact ⟨digits, rfl, ⟨hall, List.ne_nil_of_length_pos hleast, hmost, hvalue⟩, hstop, hlow, hhigh⟩
  · rintro ⟨digits, rfl, hwrites, hstop, hlow, hhigh⟩
    exact ⟨n, rest, ⟨digits, rfl, hwrites.all, List.length_pos_iff.mpr hwrites.ne_nil,
      hwrites.length_le, hstop, hwrites.value⟩, ⟨hlow, hhigh⟩, rfl, rfl⟩

/-- What is left of a text without its first blanks. -/
theorem dropBlanks_eq_cons_iff {c : Char} {cs tail : List Char} :
    dropBlanks cs = c :: tail ↔
      isBlank c = false ∧ ∃ blanks, cs = blanks ++ c :: tail ∧ ∀ b ∈ blanks, isBlank b = true := by
  constructor
  · intro h
    have hhead := List.head?_dropWhile_not isBlank cs
    have hsplit := List.takeWhile_append_dropWhile (p := isBlank) (l := cs)
    change cs.dropWhile isBlank = c :: tail at h
    rw [h] at hhead hsplit
    exact ⟨by simpa using hhead, _, hsplit.symm, fun b hb => List.mem_takeWhile_imp hb⟩
  · rintro ⟨hc, blanks, rfl, hblanks⟩
    rw [dropBlanks_append hblanks, dropBlanks, List.dropWhile_cons_of_neg (by simp [hc])]

/-- A number, or anything else that begins with no blank, with blanks before it. -/
theorem dropBlanks_eq_append_iff {cs front rest : List Char} (hne : front ≠ [])
    (hfront : ∀ c ∈ front.head?, isBlank c = false) :
    dropBlanks cs = front ++ rest ↔
      ∃ blanks, cs = blanks ++ (front ++ rest) ∧ ∀ b ∈ blanks, isBlank b = true := by
  obtain ⟨c, tail, rfl⟩ := List.exists_cons_of_ne_nil hne
  rw [List.cons_append, dropBlanks_eq_cons_iff, and_iff_right (hfront c rfl)]

theorem WritesNumber.not_blank {digits : List Char} {n : Nat} (h : WritesNumber digits n) :
    ∀ c ∈ digits.head?, isBlank c = false :=
  fun _ hc => isBlank_of_isDigit (h.all _ (List.mem_of_mem_head? hc))

namespace Item

/-- The least and the greatest number of an item of one or two digits. -/
def bounds? : Item → Option (Nat × Nat)
  | month => some (1, 12)
  | day => some (1, 31)
  | hour => some (0, 23)
  | minute => some (0, 59)
  | second => some (0, 60)
  | _ => none

/-- A reading with the number of such an item. -/
def store (n : Nat) (r : Reading) : Item → Reading
  | month => { r with month := n }
  | day => { r with day := n }
  | hour => { r with hour := n }
  | minute => { r with minute := n }
  | second => { r with second := n }
  | _ => r

variable {item : Item} {low high : Nat}

theorem read?_of_bounds (h : item.bounds? = some (low, high)) (r : Reading) (cs : List Char) :
    item.read? r cs =
      (takeRanged? low high (dropBlanks cs)).map fun (n, rest) => (item.store n r, rest) := by
  cases item <;> cases h <;> rfl

/-- What an item of one or two digits reads. -/
theorem read?_eq_some_iff (h : item.bounds? = some (low, high)) {r r' : Reading}
    {cs rest : List Char} :
    item.read? r cs = some (r', rest) ↔
      ∃ blanks digits n, cs = blanks ++ (digits ++ rest) ∧ (∀ b ∈ blanks, isBlank b = true) ∧
        WritesNumber digits n ∧ (digits.length < 2 → NoDigitFirst rest) ∧ low ≤ n ∧ n ≤ high ∧
        r' = item.store n r := by
  simp only [read?_of_bounds h, Option.map_eq_some_iff, Prod.exists, Prod.mk.injEq,
    takeRanged?_eq_some_iff]
  constructor
  · rintro ⟨n, rest, ⟨digits, hdrop, hwrites, hstop, hlow, hhigh⟩, rfl, rfl⟩
    obtain ⟨blanks, hcs, hblanks⟩ :=
      (dropBlanks_eq_append_iff hwrites.ne_nil hwrites.not_blank).mp hdrop
    exact ⟨blanks, digits, n, hcs, hblanks, hwrites, hstop, hlow, hhigh, rfl⟩
  · rintro ⟨blanks, digits, n, hcs, hblanks, hwrites, hstop, hlow, hhigh, rfl⟩
    have hdrop := (dropBlanks_eq_append_iff hwrites.ne_nil hwrites.not_blank).mpr ⟨blanks, hcs, hblanks⟩
    exact ⟨n, rest, ⟨digits, hdrop, hwrites, hstop, hlow, hhigh⟩, rfl, rfl⟩

end Item

theorem readItems?_cons_eq_some_iff {item : Item} {items : List Item} {r : Reading} {cs : List Char}
    {p : Reading × List Char} :
    readItems? (item :: items) r cs = some p ↔
      ∃ r' rest, item.read? r cs = some (r', rest) ∧ readItems? items r' rest = some p := by
  simp only [readItems?, Option.bind_eq_some_iff, Prod.exists]

theorem takeMark?_eq_some_iff {c : Char} {cs rest : List Char} :
    takeMark? c cs = some rest ↔ cs = c :: rest := by
  cases cs with
  | nil => simp [takeMark?]
  | cons d cs =>
    simp only [takeMark?, Option.ite_none_right_eq_some, Option.some.injEq, List.cons.injEq]
    exact and_congr_left' eq_comm

theorem takeMark?_self (c : Char) (cs : List Char) : takeMark? c (c :: cs) = some cs :=
  takeMark?_eq_some_iff.mpr rfl

theorem readItems?_mark_iff {c : Char} {items : List Item} {r : Reading} {cs : List Char}
    {p : Reading × List Char} :
    readItems? (.mark c :: items) r cs = some p ↔
      ∃ rest, cs = c :: rest ∧ readItems? items r rest = some p := by
  simp only [readItems?_cons_eq_some_iff, Item.read?, Option.map_eq_some_iff, takeMark?_eq_some_iff,
    Prod.mk.injEq]
  constructor
  · rintro ⟨_, _, ⟨rest, hcs, rfl, rfl⟩, hp⟩
    exact ⟨rest, hcs, hp⟩
  · rintro ⟨rest, hcs, hp⟩
    exact ⟨r, rest, ⟨rest, hcs, rfl, rfl⟩, hp⟩

theorem noDigitFirst_cons {c : Char} (h : isDigit c = false) (cs : List Char) :
    NoDigitFirst (c :: cs) := by
  rintro d hd
  cases hd
  exact h

/-- A number with a mark behind it. -/
theorem readItems?_number_mark_iff {item : Item} {low high : Nat}
    (h : item.bounds? = some (low, high)) {c : Char} (hc : isDigit c = false) {items : List Item}
    {r : Reading} {cs : List Char} {p : Reading × List Char} :
    readItems? (item :: .mark c :: items) r cs = some p ↔
      ∃ blanks digits n rest, cs = blanks ++ (digits ++ c :: rest) ∧
        (∀ b ∈ blanks, isBlank b = true) ∧ WritesNumber digits n ∧ low ≤ n ∧ n ≤ high ∧
        readItems? items (item.store n r) rest = some p := by
  rw [readItems?_cons_eq_some_iff]
  simp only [Item.read?_eq_some_iff h, readItems?_mark_iff]
  constructor
  · rintro ⟨_, _, ⟨blanks, digits, n, hcs, hblanks, hwrites, -, hlow, hhigh, rfl⟩, rest, rfl, hp⟩
    exact ⟨blanks, digits, n, rest, hcs, hblanks, hwrites, hlow, hhigh, hp⟩
  · rintro ⟨blanks, digits, n, rest, hcs, hblanks, hwrites, hlow, hhigh, hp⟩
    exact ⟨_, _, ⟨blanks, digits, n, hcs, hblanks, hwrites, fun _ => noDigitFirst_cons hc rest, hlow,
      hhigh, rfl⟩, rest, rfl, hp⟩

/-- A clock begins with digits and a colon. -/
theorem hour_of_readItems? {items : List Item} {r : Reading} {cs : List Char} {p : Reading × List Char}
    (h : readItems? (.hour :: .mark ':' :: items) r cs = some p) :
    ∃ blanks hs rest, cs = blanks ++ (hs ++ ':' :: rest) ∧ (∀ b ∈ blanks, isBlank b = true) ∧
      AllDigits hs ∧ hs ≠ [] := by
  have hhour : Item.hour.bounds? = some (0, 23) := rfl
  obtain ⟨blanks, hs, _, rest, hcs, hblanks, hwrites, -⟩ :=
    (readItems?_number_mark_iff hhour (by decide)).mp h
  exact ⟨blanks, hs, rest, hcs, hblanks, hwrites.all, hwrites.ne_nil⟩

/-- No clock begins with a `T`. -/
theorem readItems?_hour_T (items : List Item) (r : Reading) (cs : List Char) :
    readItems? (.hour :: .mark ':' :: items) r ('T' :: cs) = none := by
  by_contra h
  obtain ⟨p, hp⟩ := Option.ne_none_iff_exists'.mp h
  obtain ⟨blanks, hs, rest, hcs, hblanks, hdigits, hne⟩ := hour_of_readItems? hp
  obtain ⟨c, hs, rfl⟩ := List.exists_cons_of_ne_nil hne
  cases blanks with
  | nil => exact absurd ((List.cons.inj hcs).1 ▸ hdigits c (List.mem_cons_self ..)) (by decide)
  | cons b blanks => exact absurd ((List.cons.inj hcs).1 ▸ hblanks b (List.mem_cons_self ..)) (by decide)

/-! ### Years -/

/-- A year as it is written: up to four digits, or a sign and any number of digits. -/
inductive WritesYear : List Char → Int → Prop where
  /-- Up to four digits. -/
  | plain {digits : List Char} : AllDigits digits → digits ≠ [] → digits.length ≤ 4 →
      WritesYear digits (digitsValue digits)
  /-- A year before the first. -/
  | negative {digits : List Char} : AllDigits digits → digits ≠ [] →
      WritesYear ('-' :: digits) (-(digitsValue digits : Int))
  /-- A year with a sign that makes no difference. -/
  | positive {digits : List Char} : AllDigits digits → digits ≠ [] →
      WritesYear ('+' :: digits) (digitsValue digits)

/-- A number of any width, in front of something else. -/
theorem takeNumber?_of_digits {least most : Nat} {digits rest : List Char} (h : AllDigits digits)
    (hleast : least ≤ digits.length) (hmost : digits.length ≤ most) (hrest : NoDigitFirst rest) :
    takeNumber? least most (digits ++ rest) = some (digitsValue digits, rest) :=
  takeNumber?_eq_some_iff.mpr ⟨digits, rfl, h, hleast, hmost, fun _ => hrest, rfl⟩

theorem ne_sign_of_digit {c : Char} (h : isDigit c = true) : c ≠ '-' ∧ c ≠ '+' := by
  constructor <;> rintro rfl <;> revert h <;> decide

/-- A year in front of something else. -/
theorem takeYear?_of_writes {ys rest : List Char} {y : Int} (h : WritesYear ys y)
    (hrest : NoDigitFirst rest) : takeYear? (ys ++ rest) = some (y, rest) := by
  cases h with
  | plain hall hne hlength =>
    obtain ⟨c, digits, rfl⟩ := List.exists_cons_of_ne_nil hne
    obtain ⟨hminus, hplus⟩ := ne_sign_of_digit (hall c (List.mem_cons_self ..))
    have htake := takeNumber?_of_digits hall (List.length_pos_iff.mpr hne) hlength hrest
    rw [List.cons_append] at htake ⊢
    unfold takeYear?
    split
    · next heq => exact absurd (List.cons.inj heq).1 hminus
    · next heq => exact absurd (List.cons.inj heq).1 hplus
    · rw [htake]
      rfl
  | negative hall hne | positive hall hne =>
    have htake := takeNumber?_of_digits hall (List.length_pos_iff.mpr hne)
      (List.length_append ▸ Nat.le_add_right _ rest.length) hrest
    simp only [List.cons_append, takeYear?]
    rw [htake]
    rfl

/-- What a year reads is a year as it is written. -/
theorem exists_of_takeYear? {cs rest : List Char} {y : Int} (h : takeYear? cs = some (y, rest)) :
    ∃ ys, cs = ys ++ rest ∧ WritesYear ys y := by
  unfold takeYear? at h
  split at h <;>
    obtain ⟨⟨n, _⟩, htake, hy⟩ := Option.map_eq_some_iff.mp h <;>
    obtain ⟨rfl, rfl⟩ := Prod.mk.inj hy <;>
    obtain ⟨digits, rfl, hall, hleast, hmost, -, rfl⟩ := takeNumber?_eq_some_iff.mp htake
  · exact ⟨_, rfl, .negative hall (List.ne_nil_of_length_pos hleast)⟩
  · exact ⟨_, rfl, .positive hall (List.ne_nil_of_length_pos hleast)⟩
  · exact ⟨_, rfl, .plain hall (List.ne_nil_of_length_pos hleast) hmost⟩

theorem WritesYear.ne_nil {ys : List Char} {y : Int} (h : WritesYear ys y) : ys ≠ [] := by
  cases h with
  | plain _ hne _ => exact hne
  | negative | positive => exact List.cons_ne_nil _ _

theorem WritesYear.not_blank {ys : List Char} {y : Int} (h : WritesYear ys y) :
    ∀ c ∈ ys.head?, isBlank c = false := by
  cases h with
  | plain hall _ _ => exact fun c hc => isBlank_of_isDigit (hall c (List.mem_of_mem_head? hc))
  | negative | positive =>
    rintro c hc
    cases hc
    decide

/-- A year with a mark behind it. -/
theorem readItems?_year_mark_iff {c : Char} (hc : isDigit c = false) {items : List Item} {r : Reading}
    {cs : List Char} {p : Reading × List Char} :
    readItems? (.year :: .mark c :: items) r cs = some p ↔
      ∃ blanks ys y rest, cs = blanks ++ (ys ++ c :: rest) ∧ (∀ b ∈ blanks, isBlank b = true) ∧
        WritesYear ys y ∧ readItems? items { r with year := y } rest = some p := by
  rw [readItems?_cons_eq_some_iff]
  simp only [Item.read?, readItems?_mark_iff, Option.map_eq_some_iff, Prod.exists, Prod.mk.injEq]
  constructor
  · rintro ⟨_, _, ⟨y, _, htake, rfl, rfl⟩, rest, rfl, hp⟩
    obtain ⟨ys, hdrop, hwrites⟩ := exists_of_takeYear? htake
    obtain ⟨blanks, hcs, hblanks⟩ :=
      (dropBlanks_eq_append_iff hwrites.ne_nil hwrites.not_blank).mp hdrop
    exact ⟨blanks, ys, y, rest, hcs, hblanks, hwrites, hp⟩
  · rintro ⟨blanks, ys, y, rest, hcs, hblanks, hwrites, hp⟩
    have hdrop := (dropBlanks_eq_append_iff hwrites.ne_nil hwrites.not_blank).mpr ⟨blanks, hcs, hblanks⟩
    have htake := takeYear?_of_writes hwrites (noDigitFirst_cons hc rest)
    exact ⟨_, _, ⟨y, _, hdrop ▸ htake, rfl, rfl⟩, rest, rfl, hp⟩

/-! ### Fractions -/

/-- The nanoseconds that the digits of a fraction write. -/
def fractionNanos (digits : List Char) : Nat :=
  digitsValue (digits.take 9) * tenTo (9 - (digits.take 9).length)

/-- A fraction takes all digits at the front. -/
theorem takeFraction?_eq_some_iff {n : Nat} {cs rest : List Char} :
    takeFraction? cs = some (n, rest) ↔
      ∃ digits, cs = digits ++ rest ∧ AllDigits digits ∧ digits ≠ [] ∧ NoDigitFirst rest ∧
        fractionNanos digits = n := by
  simp only [takeFraction?]
  constructor
  · intro h
    split at h
    · cases h
    · next hne =>
      obtain ⟨rfl, rfl⟩ := Prod.mk.inj (Option.some.inj h)
      refine ⟨cs.takeWhile isDigit, List.takeWhile_append_dropWhile.symm,
        fun c hc => List.mem_takeWhile_imp hc, by simpa using hne, fun c hc => ?_, rfl⟩
      have hhead := List.head?_dropWhile_not isDigit cs
      rw [Option.mem_def.mp hc] at hhead
      simpa using hhead
  · rintro ⟨digits, rfl, hall, hne, hstop, rfl⟩
    have htake : (digits ++ rest).takeWhile isDigit = digits := by
      rw [List.takeWhile_append_of_pos hall, takeWhile_of_noDigitFirst hstop, List.append_nil]
    have hdrop : (digits ++ rest).dropWhile isDigit = rest := by
      have hsplit := List.takeWhile_append_dropWhile (p := isDigit) (l := digits ++ rest)
      rw [htake] at hsplit
      exact List.append_cancel_left hsplit
    rw [htake, hdrop, if_neg (by simpa using hne)]
    rfl

/-! ### What is left -/

theorem suffix_of_takeNumber? {least most n : Nat} {cs rest : List Char}
    (h : takeNumber? least most cs = some (n, rest)) : rest <:+ cs := by
  obtain ⟨digits, rfl, -⟩ := takeNumber?_eq_some_iff.mp h
  exact List.suffix_append digits rest

theorem suffix_of_takeMark? {c : Char} {cs rest : List Char} (h : takeMark? c cs = some rest) :
    rest <:+ cs :=
  takeMark?_eq_some_iff.mp h ▸ List.suffix_cons c rest

theorem readItems?_append (items more : List Item) (r : Reading) (cs : List Char) :
    readItems? (items ++ more) r cs =
      (readItems? items r cs).bind fun p => readItems? more p.1 p.2 := by
  induction items generalizing r cs with
  | nil => rfl
  | cons item items ih =>
    simp only [List.cons_append, readItems?]
    cases item.read? r cs with
    | none => rfl
    | some p => exact ih p.1 p.2

/-- An item leaves an end of the text. -/
theorem Item.read?_suffix {item : Item} (hzone : item ≠ .zone) {r r' : Reading} {cs rest : List Char}
    (h : item.read? r cs = some (r', rest)) : rest <:+ cs := by
  have hnumber : ∀ {low high}, item.bounds? = some (low, high) → rest <:+ cs := by
    intro low high hbounds
    obtain ⟨blanks, digits, _, rfl, -⟩ := (Item.read?_eq_some_iff hbounds).mp h
    exact ⟨blanks ++ digits, by simp⟩
  cases item with
  | month | day | hour | minute | second => exact hnumber rfl
  | zone => exact absurd rfl hzone
  | mark m =>
    obtain ⟨_, hmark, heq⟩ := Option.map_eq_some_iff.mp h
    obtain ⟨rfl, rfl⟩ := Prod.mk.inj heq
    exact suffix_of_takeMark? hmark
  | blanks =>
    obtain ⟨rfl, rfl⟩ := Prod.mk.inj (Option.some.inj h)
    exact List.dropWhile_suffix isBlank
  | fraction =>
    simp only [Item.read?] at h
    split at h
    · obtain ⟨_, hfraction, heq⟩ := Option.map_eq_some_iff.mp h
      obtain ⟨rfl, rfl⟩ := Prod.mk.inj heq
      obtain ⟨digits, rfl, -⟩ := takeFraction?_eq_some_iff.mp hfraction
      exact List.suffix_append ('.' :: digits) _
    · obtain ⟨rfl, rfl⟩ := Prod.mk.inj (Option.some.inj h)
      exact List.suffix_rfl
  | year =>
    obtain ⟨_, htake, heq⟩ := Option.map_eq_some_iff.mp h
    obtain ⟨rfl, rfl⟩ := Prod.mk.inj heq
    obtain ⟨ys, hdrop, -⟩ := exists_of_takeYear? htake
    exact (hdrop ▸ List.suffix_append ys _).trans (List.dropWhile_suffix isBlank)

/-- A pattern leaves an end of the text. -/
theorem readItems?_suffix {items : List Item} (hzone : .zone ∉ items) {r r' : Reading}
    {cs rest : List Char} (h : readItems? items r cs = some (r', rest)) : rest <:+ cs := by
  induction items generalizing r cs with
  | nil =>
    obtain ⟨rfl, rfl⟩ := Prod.mk.inj (Option.some.inj h)
    exact List.suffix_rfl
  | cons item items ih =>
    rw [List.mem_cons, not_or] at hzone
    obtain ⟨_, _, hitem, hrest⟩ := readItems?_cons_eq_some_iff.mp h
    exact (ih hzone.2 hrest).trans (Item.read?_suffix (Ne.symm hzone.1) hitem)

/-! ### The day and the clock -/

/-- A reading with the day of another one. -/
def Reading.onDay (q r : Reading) : Reading := { q with year := r.year, month := r.month, day := r.day }

@[simp] theorem Reading.date?_onDay (q r : Reading) : (q.onDay r).date? = r.date? := rfl

@[simp] theorem Reading.time?_onDay (q r : Reading) : (q.onDay r).time? = q.time? := rfl

/-- An item of a day. -/
def Item.ofDay : Item → Bool
  | year | month | day => true
  | _ => false

/-- Any other item reads the same whatever the day is, and leaves it alone. -/
theorem Item.read?_onDay {item : Item} (h : item.ofDay = false) (q r : Reading) (cs : List Char) :
    item.read? (q.onDay r) cs = (item.read? q cs).map fun p => (p.1.onDay r, p.2) := by
  cases item with
  | year | month | day => cases h
  | hour | minute | second | zone | mark =>
    simp only [read?, Option.map_map]
    rfl
  | blanks => rfl
  | fraction =>
    simp only [read?]
    split
    · simp only [Option.map_map]
      rfl
    · rfl

/-- A pattern of a clock reads the same whatever the day is, and leaves it alone. -/
theorem readItems?_onDay {items : List Item} (h : ∀ item ∈ items, item.ofDay = false) (q r : Reading)
    (cs : List Char) :
    readItems? items (q.onDay r) cs = (readItems? items q cs).map fun p => (p.1.onDay r, p.2) := by
  induction items generalizing q cs with
  | nil => rfl
  | cons item items ih =>
    simp only [readItems?, Item.read?_onDay (h item (List.mem_cons_self ..))]
    cases item.read? q cs with
    | none => rfl
    | some p => exact ih (fun other hother => h other (List.mem_cons_of_mem _ hother)) p.1 p.2

/-- The reading of a text that fits a pattern as a whole, after what was found before. -/
def fitFrom? (items : List Item) (r : Reading) (cs : List Char) : Option Reading :=
  match readItems? items r cs with
  | some (r, []) => some r
  | _ => none

theorem fitFrom?_eq_some_iff {items : List Item} {r r' : Reading} {cs : List Char} :
    fitFrom? items r cs = some r' ↔ readItems? items r cs = some (r', []) := by
  unfold fitFrom?
  split
  · next h => simp [h]
  · next hnot =>
    refine ⟨nofun, fun h => absurd h ?_⟩
    exact hnot r'

theorem fit?_append (before items : List Item) (cs : List Char) :
    fit? (before ++ items) cs = (readItems? before {} cs).bind fun p => fitFrom? items p.1 p.2 := by
  rw [fit?, readItems?_append]
  cases readItems? before {} cs <;> rfl

theorem fitFrom?_cons (item : Item) (items : List Item) (r : Reading) (cs : List Char) :
    fitFrom? (item :: items) r cs = (item.read? r cs).bind fun p => fitFrom? items p.1 p.2 := by
  rw [fitFrom?, readItems?]
  cases item.read? r cs <;> rfl

theorem fitFrom?_onDay {items : List Item} (h : ∀ item ∈ items, item.ofDay = false) (q r : Reading)
    (cs : List Char) : fitFrom? items (q.onDay r) cs = (fitFrom? items q cs).map (·.onDay r) := by
  rw [fitFrom?, readItems?_onDay h, fitFrom?]
  match readItems? items q cs with
  | none => rfl
  | some (_, []) => rfl
  | some (_, _ :: _) => rfl

/-- A day in front of a text: year, month and day with hyphens between them, and blanks in front of each
number. -/
inductive DayInFront (rest : List Char) (y : Int) (m d : Nat) : List Char → Prop where
  /-- The day has two digits, or no digit follows it. -/
  | intro {b₀ ys b₁ ms b₂ ds : List Char} :
      (∀ b ∈ b₀, isBlank b = true) → (∀ b ∈ b₁, isBlank b = true) → (∀ b ∈ b₂, isBlank b = true) →
      WritesYear ys y → WritesNumber ms m → WritesNumber ds d → (ds.length < 2 → NoDigitFirst rest) →
      DayInFront rest y m d (b₀ ++ (ys ++ '-' :: (b₁ ++ (ms ++ '-' :: (b₂ ++ (ds ++ rest))))))

/-- The items of a day read a day in front of a text, and nothing else than the day. -/
theorem readItems?_dateItems_iff {cs rest : List Char} {r : Reading} :
    readItems? dateItems {} cs = some (r, rest) ↔
      DayInFront rest r.year r.month r.day cs ∧ (1 ≤ r.month ∧ r.month ≤ 12) ∧
        (1 ≤ r.day ∧ r.day ≤ 31) ∧ ({} : Reading).onDay r = r := by
  have hhyphen : isDigit '-' = false := by decide
  have hmonth : Item.month.bounds? = some (1, 12) := rfl
  have hday : Item.day.bounds? = some (1, 31) := rfl
  simp only [dateItems, readItems?_year_mark_iff hhyphen, readItems?_number_mark_iff hmonth hhyphen,
    readItems?_cons_eq_some_iff, Item.read?_eq_some_iff hday]
  constructor
  · rintro ⟨b₀, ys, y, _, rfl, hb₀, hys, b₁, ms, m, _, rfl, hb₁, hms, hleast, hmost, _, _,
      ⟨b₂, ds, d, rfl, hb₂, hds, hstop, hleast', hmost', rfl⟩, heq⟩
    obtain ⟨rfl, rfl⟩ := Prod.mk.inj (Option.some.inj heq)
    exact ⟨.intro hb₀ hb₁ hb₂ hys hms hds hstop, ⟨hleast, hmost⟩, ⟨hleast', hmost'⟩, rfl⟩
  · rintro ⟨hfront, ⟨hleast, hmost⟩, ⟨hleast', hmost'⟩, hr⟩
    cases hfront with
    | intro hb₀ hb₁ hb₂ hys hms hds hstop =>
      exact ⟨_, _, _, _, rfl, hb₀, hys, _, _, _, _, rfl, hb₁, hms, hleast, hmost, r, rest,
        ⟨_, _, _, rfl, hb₂, hds, hstop, hleast', hmost', hr.symm⟩, rfl⟩

/-- They read a day of the calendar when a day of the calendar stands in front. -/
theorem date?_of_dateItems_iff {cs rest : List Char} {date : Date} :
    (∃ r, readItems? dateItems {} cs = some (r, rest) ∧ r.date? = some date) ↔
      DayInFront rest date.year date.month date.day cs := by
  simp only [readItems?_dateItems_iff, Reading.date?, Date.make?_eq_some_iff]
  constructor
  · rintro ⟨r, ⟨hfront, -⟩, hy, hm, hd⟩
    rwa [hy, hm, hd]
  · intro hfront
    obtain ⟨-, hmonth, hday, -⟩ := date.bounds
    exact ⟨{ year := date.year, month := date.month, day := date.day },
      ⟨hfront, hmonth, ⟨hday, date.day_le⟩, rfl⟩, rfl, rfl, rfl⟩

/-! ### Zones -/

/-- The signs that a zone begins with. -/
def zoneSigns : List Char := ['Z', 'z', '+', '-', '−']

/-- Somewhere behind a colon, a sign that begins a zone. -/
def ZoneBehindColon (cs : List Char) : Prop := ∃ rest, ':' :: rest <:+ cs ∧ ∃ c ∈ rest, c ∈ zoneSigns

theorem exists_sign_of_takeOffset? {between : List Char → Option (List Char)} {cs : List Char}
    {p : Int × List Char} (h : takeOffset? between cs = some p) : ∃ c ∈ cs, c ∈ zoneSigns := by
  cases cs with
  | nil => cases h
  | cons sign tail =>
    refine ⟨sign, List.mem_cons_self .., ?_⟩
    by_contra hnot
    simp only [zoneSigns, List.mem_cons, List.not_mem_nil, or_false, not_or] at hnot
    obtain ⟨-, -, hplus, hminus, hproper⟩ := hnot
    simp [takeOffset?, hplus, hminus, hproper] at h

theorem exists_sign_of_exactZone? {cs : List Char} {zone : Int} (h : exactZone? cs = some zone) :
    ∃ c ∈ cs, c ∈ zoneSigns := by
  unfold exactZone? at h
  split at h
  · exact ⟨'Z', by decide⟩
  · exact ⟨'z', by decide⟩
  · split at h
    · next hoffset => exact exists_sign_of_takeOffset? hoffset
    · cases h

/-- A zone at the end of a pattern with a colon is read behind a colon. -/
theorem fit?_zone {before after : List Item} (hbefore : .zone ∉ before) (hafter : .zone ∉ after)
    {cs : List Char} {r : Reading} (h : fit? (before ++ .mark ':' :: (after ++ [.zone])) cs = some r) :
    ZoneBehindColon cs := by
  unfold fit? at h
  split at h
  · next hread =>
    rw [readItems?_append, Option.bind_eq_some_iff] at hread
    obtain ⟨⟨_, _⟩, hfront, hread⟩ := hread
    obtain ⟨rest, rfl, hread⟩ := readItems?_mark_iff.mp hread
    rw [readItems?_append, Option.bind_eq_some_iff] at hread
    obtain ⟨⟨_, last⟩, hclock, hread⟩ := hread
    obtain ⟨_, _, hzone, -⟩ := readItems?_cons_eq_some_iff.mp hread
    obtain ⟨_, hoffset, -⟩ := Option.map_eq_some_iff.mp hzone
    obtain ⟨c, hc, hsign⟩ := exists_sign_of_takeOffset? hoffset
    have hmem : c ∈ last := (List.dropWhile_suffix isBlank).subset hc
    exact ⟨rest, readItems?_suffix hbefore hfront, c, (readItems?_suffix hafter hclock).subset hmem, hsign⟩
  · cases h

theorem takeSeparator?_eq_some_iff {cs rest : List Char} :
    takeSeparator? cs = some rest ↔ ∃ c, cs = c :: rest ∧ (c = 'T' ∨ c = 't' ∨ c = ' ') := by
  cases cs with
  | nil => simp [takeSeparator?]
  | cons c cs =>
    simp only [takeSeparator?, Option.ite_none_right_eq_some, Bool.or_eq_true, decide_eq_true_eq,
      Option.some.injEq, List.cons.injEq, or_assoc]
    constructor
    · rintro ⟨hc, rfl⟩
      exact ⟨c, ⟨rfl, rfl⟩, hc⟩
    · rintro ⟨_, ⟨rfl, rfl⟩, hc⟩
      exact ⟨hc, rfl⟩

theorem suffix_of_takePointed? {n : Nat} {cs rest : List Char}
    (h : takePointed? cs = some (n, rest)) : rest <:+ cs := by
  unfold takePointed? at h
  split at h
  · obtain ⟨digits, rfl, -⟩ := takeFraction?_eq_some_iff.mp h
    exact List.suffix_append ('.' :: digits) rest
  · obtain ⟨-, rfl⟩ := Prod.mk.inj (Option.some.inj h)
    exact List.suffix_rfl

/-- The zone of an exact instant stands behind a colon. -/
theorem readStrict?_zone {cs : List Char} {r : Reading} (h : readStrict? cs = some r) :
    ZoneBehindColon cs := by
  obtain ⟨⟨_, _⟩, hyear, h⟩ := Option.bind_eq_some_iff.mp h
  obtain ⟨_, hhyphen, h⟩ := Option.bind_eq_some_iff.mp h
  obtain ⟨⟨_, _⟩, hmonth, h⟩ := Option.bind_eq_some_iff.mp h
  obtain ⟨_, hhyphen', h⟩ := Option.bind_eq_some_iff.mp h
  obtain ⟨⟨_, _⟩, hday, h⟩ := Option.bind_eq_some_iff.mp h
  obtain ⟨_, hseparator, h⟩ := Option.bind_eq_some_iff.mp h
  obtain ⟨⟨_, _⟩, hhour, h⟩ := Option.bind_eq_some_iff.mp h
  obtain ⟨_, hcolon, h⟩ := Option.bind_eq_some_iff.mp h
  obtain ⟨⟨_, _⟩, hminute, h⟩ := Option.bind_eq_some_iff.mp h
  obtain ⟨_, hcolon', h⟩ := Option.bind_eq_some_iff.mp h
  obtain ⟨⟨_, _⟩, hsecond, h⟩ := Option.bind_eq_some_iff.mp h
  obtain ⟨⟨_, _⟩, hfraction, h⟩ := Option.bind_eq_some_iff.mp h
  obtain ⟨_, hzone, -⟩ := Option.bind_eq_some_iff.mp h
  obtain ⟨c, hc, hsign⟩ := exists_sign_of_exactZone? hzone
  obtain rfl := takeMark?_eq_some_iff.mp hcolon'
  obtain ⟨_, rfl, -⟩ := takeSeparator?_eq_some_iff.mp hseparator
  have hmem := (suffix_of_takeNumber? hsecond).subset ((suffix_of_takePointed? hfraction).subset hc)
  have hsuffix := (suffix_of_takeNumber? hminute).trans ((suffix_of_takeMark? hcolon).trans
    ((suffix_of_takeNumber? hhour).trans ((List.suffix_cons _ _).trans ((suffix_of_takeNumber? hday).trans
      ((suffix_of_takeMark? hhyphen').trans ((suffix_of_takeNumber? hmonth).trans
        ((suffix_of_takeMark? hhyphen).trans (suffix_of_takeNumber? hyear))))))))
  exact ⟨_, hsuffix, c, hmem, hsign⟩

end Filterbook.Calendar

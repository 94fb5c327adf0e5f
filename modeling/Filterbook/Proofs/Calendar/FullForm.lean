import Filterbook.Proofs.Calendar.Reading
import Mathlib.Tactic.Ring

/-!
# Times and zones in full

A time on a day in full has four digits for the year and two for every other number, but for the fraction
of its seconds; a zone in full is a sign, two digits of hours and two of minutes with a colon in between.

## What is proved

* `readItems?_day_iff`, `readItems?_hourMinute_iff`, `readItems?_seconds_iff`: what the items of a pattern
  read of such a time, part by part.
* `FullForm.readStrict?_zoned`: the exact form reads a time with seconds and a zone, number by number.
* `FullForm.readStrict?_without_seconds`: it reads no time without seconds.
-/

namespace Filterbook.Calendar

open Number Text

/-! ### Digits of one width -/

/-- Digits write less than a one with as many zeros. -/
theorem digitsValue_lt {digits : List Char} (h : AllDigits digits) :
    digitsValue digits < 10 ^ digits.length := by
  have hfrom : ∀ start, valueFrom start digits < (start + 1) * 10 ^ digits.length := by
    induction digits with
    | nil => simp [valueFrom]
    | cons c digits ih =>
      intro start
      have hc := digitValue_lt (h c (List.mem_cons_self ..))
      calc valueFrom start (c :: digits)
        _ = valueFrom (10 * start + digitValue c) digits := rfl
        _ < (10 * start + digitValue c + 1) * 10 ^ digits.length :=
          ih (fun d hd => h d (List.mem_cons_of_mem _ hd)) _
        _ ≤ ((start + 1) * 10) * 10 ^ digits.length := Nat.mul_le_mul_right _ (by omega)
        _ = (start + 1) * 10 ^ (digits.length + 1) := by rw [Nat.pow_succ]; ring
  simpa [digitsValue] using hfrom 0

/-- So many digits. -/
structure Digits (width : Nat) where
  /-- The digits. -/
  chars : List Char
  /-- They are digits. -/
  all : AllDigits chars
  /-- There are so many. -/
  length_eq : chars.length = width

namespace Digits

variable {width : Nat}

/-- The number that they write. -/
def value (n : Digits width) : Nat := digitsValue n.chars

/-- A number of that width takes them and no more. -/
theorem takeNumber?_append (n : Digits width) {least : Nat} (hleast : least ≤ width)
    (rest : List Char) : takeNumber? least width (n.chars ++ rest) = some (n.value, rest) :=
  takeNumber?_eq_some_iff.mpr ⟨n.chars, rfl, n.all, hleast.trans n.length_eq.ge, n.length_eq.le,
    fun h => absurd n.length_eq h.ne, rfl⟩

/-- They write a number of no more digits. -/
theorem value_lt (n : Digits width) : n.value < 10 ^ width := by
  have hlt := digitsValue_lt n.all
  rwa [n.length_eq] at hlt

theorem exists_cons (n : Digits (width + 1)) : ∃ c cs, n.chars = c :: cs ∧ isDigit c = true := by
  have hpos : 0 < n.chars.length := by
    rw [n.length_eq]
    exact Nat.succ_pos width
  obtain ⟨c, cs, hchars⟩ := List.exists_cons_of_ne_nil (List.ne_nil_of_length_pos hpos)
  exact ⟨c, cs, hchars, n.all c (hchars ▸ List.mem_cons_self ..)⟩

theorem writes (n : Digits 2) : WritesNumber n.chars n.value := by
  obtain ⟨c, cs, hchars, -⟩ := n.exists_cons
  exact ⟨n.all, hchars ▸ List.cons_ne_nil c cs, n.length_eq.le, rfl⟩

/-- They have no blanks in front. -/
theorem dropBlanks_append (n : Digits (width + 1)) (rest : List Char) :
    dropBlanks (n.chars ++ rest) = n.chars ++ rest := by
  obtain ⟨c, cs, hchars, hc⟩ := n.exists_cons
  exact dropBlanks_of_head (by simp [hchars, isBlank_of_isDigit hc])

end Digits

/-! ### What items read of them -/

section Items

variable {items : List Item} {r : Reading} {rest : List Char} {p : Reading × List Char}

/-- An item of one or two digits reads two, if they write a number within its bounds. -/
theorem readItems?_digits_iff {item : Item} {low high : Nat} (h : item.bounds? = some (low, high))
    (n : Digits 2) :
    readItems? (item :: items) r (n.chars ++ rest) = some p ↔
      (low ≤ n.value ∧ n.value ≤ high) ∧ readItems? items (item.store n.value r) rest = some p := by
  simp only [readItems?, Item.read?_of_bounds h, n.dropBlanks_append, takeRanged?,
    n.takeNumber?_append (show 1 ≤ 2 by decide), Option.bind_eq_bind, Option.bind_some, Bool.and_eq_true,
    decide_eq_true_eq]
  split_ifs with hbounds
  · exact (and_iff_right hbounds).symm
  · exact iff_of_false (by simp) fun hand => hbounds hand.1

theorem readItems?_mark (c : Char) (items : List Item) (r : Reading) (rest : List Char) :
    readItems? (.mark c :: items) r (c :: rest) = readItems? items r rest := by
  rw [readItems?, Item.read?, takeMark?_self]
  rfl

/-- A year of four digits in front of a hyphen is read as it is. -/
theorem readItems?_year (y : Digits 4) :
    readItems? (.year :: items) r (y.chars ++ '-' :: rest) =
      readItems? items { r with year := y.value } ('-' :: rest) := by
  obtain ⟨c, cs, hchars, -⟩ := y.exists_cons
  have hwrites : WritesYear y.chars y.value :=
    .plain y.all (hchars ▸ List.cons_ne_nil c cs) y.length_eq.le
  have htake : takeYear? (y.chars ++ '-' :: rest) = some ((y.value : Int), '-' :: rest) :=
    takeYear?_of_writes hwrites (noDigitFirst_cons (by decide) rest)
  simp only [readItems?, Item.read?, y.dropBlanks_append, htake, Option.map_some, Option.bind_some]

/-- The items of a day read a day in full, if month and day lie within their bounds. -/
theorem readItems?_day_iff {y : Digits 4} {m d : Digits 2} :
    readItems? dateItems {} (y.chars ++ '-' :: (m.chars ++ '-' :: (d.chars ++ rest))) = some p ↔
      (1 ≤ m.value ∧ m.value ≤ 12) ∧ (1 ≤ d.value ∧ d.value ≤ 31) ∧
        ({ year := y.value, month := m.value, day := d.value }, rest) = p := by
  have hmonth : Item.month.bounds? = some (1, 12) := rfl
  have hday : Item.day.bounds? = some (1, 31) := rfl
  rw [dateItems, readItems?_year, readItems?_mark, readItems?_digits_iff hmonth, readItems?_mark,
    readItems?_digits_iff hday]
  exact and_congr_right' (and_congr_right' Option.some_inj)

/-- The items of a clock read hour and minute in full, and the rest is left. -/
theorem readItems?_hourMinute_iff {h m : Digits 2} :
    readItems? (minuteItems ++ items) r (h.chars ++ ':' :: (m.chars ++ rest)) = some p ↔
      h.value ≤ 23 ∧ m.value ≤ 59 ∧
        readItems? items { r with hour := h.value, minute := m.value } rest = some p := by
  have hhour : Item.hour.bounds? = some (0, 23) := rfl
  have hminute : Item.minute.bounds? = some (0, 59) := rfl
  simp only [minuteItems, List.cons_append, List.nil_append, readItems?_digits_iff hhour, readItems?_mark,
    readItems?_digits_iff hminute, Nat.zero_le, true_and]
  rfl

end Items

/-! ### Seconds -/

/-- The digits of a fraction. -/
structure Fraction where
  /-- The digits. -/
  chars : List Char
  /-- They are digits. -/
  all : AllDigits chars
  /-- There is one at least. -/
  ne_nil : chars ≠ []

/-- Two digits of seconds and maybe a fraction. -/
structure Seconds where
  /-- The whole seconds. -/
  whole : Digits 2
  /-- The fraction. -/
  fraction : Option Fraction

namespace Seconds

/-- A point and the digits of the fraction, or nothing. -/
def fractionChars (s : Seconds) : List Char :=
  match s.fraction with
  | none => []
  | some f => '.' :: f.chars

/-- The nanoseconds of the fraction. -/
def nano (s : Seconds) : Nat :=
  match s.fraction with
  | none => 0
  | some f => fractionNanos f.chars

/-- The seconds as they are written. -/
def chars (s : Seconds) : List Char := s.whole.chars ++ s.fractionChars

/-- The fraction is read in front of anything but digits and points. -/
theorem takePointed?_append (s : Seconds) {rest : List Char}
    (hrest : ∀ c ∈ rest.head?, isDigit c = false ∧ c ≠ '.') :
    takePointed? (s.fractionChars ++ rest) = some (s.nano, rest) := by
  unfold fractionChars nano
  cases s.fraction with
  | none =>
    cases rest with
    | nil => rfl
    | cons c rest =>
      have hc := (hrest c rfl).2
      rw [List.nil_append, takePointed?]
      simpa using hc
  | some f =>
    exact takeFraction?_eq_some_iff.mpr ⟨f.chars, rfl, f.all, f.ne_nil, fun c hc => (hrest c hc).1, rfl⟩

/-- The item of a fraction reads it at the end of a text. -/
theorem readItems?_fraction (s : Seconds) {r : Reading} (hr : r.nano = 0) :
    readItems? [.fraction] r s.fractionChars = some ({ r with nano := s.nano }, []) := by
  have htake : takePointed? (s.fractionChars ++ []) = some (s.nano, []) := s.takePointed?_append nofun
  unfold fractionChars nano at *
  cases hf : s.fraction with
  | none =>
    cases r
    cases hr
    rfl
  | some f =>
    simp only [hf, List.append_nil, takePointed?] at htake
    simp only [readItems?, Item.read?, htake, Option.map_some, Option.bind_some]

end Seconds

/-- The items behind hour and minute read seconds in full and leave nothing of them. -/
theorem readItems?_seconds_iff (s : Seconds) {r : Reading} (hr : r.nano = 0) {p : Reading × List Char} :
    readItems? [.mark ':', .second, .fraction] r (':' :: s.chars) = some p ↔
      s.whole.value ≤ 60 ∧ ({ r with second := s.whole.value, nano := s.nano }, []) = p := by
  have hsecond : Item.second.bounds? = some (0, 60) := rfl
  have hnano : (Item.second.store s.whole.value r).nano = 0 := hr
  rw [readItems?_mark, Seconds.chars, readItems?_digits_iff hsecond, s.readItems?_fraction hnano]
  simp only [Nat.zero_le, true_and]
  exact and_congr_right' Option.some_inj

/-! ### Zones -/

/-- A sign, hours and minutes. -/
structure Offset where
  /-- Local time is ahead of UTC. -/
  ahead : Bool
  /-- The hours. -/
  hours : Digits 2
  /-- There are less than a day of them. -/
  hours_le : hours.value ≤ 23
  /-- The minutes. -/
  minutes : Digits 2
  /-- There are less than an hour of them. -/
  minutes_le : minutes.value ≤ 59

namespace Offset

/-- The sign. -/
def sign (z : Offset) : Char := if z.ahead then '+' else '-'

/-- A zone as it is written. -/
def chars (z : Offset) : List Char := z.sign :: (z.hours.chars ++ ':' :: z.minutes.chars)

/-- The minutes by which local time is ahead of UTC. -/
def total (z : Offset) : Int :=
  let minutes : Int := z.hours.value * 60 + z.minutes.value
  if z.ahead then minutes else -minutes

theorem sign_eq (z : Offset) : z.sign = '+' ∨ z.sign = '-' := by
  unfold sign
  split_ifs
  · exact .inl rfl
  · exact .inr rfl

theorem sign_ne_colon (z : Offset) : z.sign ≠ ':' := by
  rcases z.sign_eq with h | h <;> rw [h] <;> decide

/-- A zone is less than a day ahead or behind. -/
theorem natAbs_total_lt (z : Offset) : z.total.natAbs < 1440 := by
  have hhours := z.hours_le
  have hminutes := z.minutes_le
  simp only [total]
  split_ifs <;> omega

/-- A zone is read as the minutes that it says. -/
theorem takeOffset?_chars (z : Offset) : takeOffset? (takeMark? ':') z.chars = some (z.total, []) := by
  have hhours := z.hours.takeNumber?_append le_rfl (':' :: z.minutes.chars)
  have hminutes := z.minutes.takeNumber?_append le_rfl []
  rw [List.append_nil] at hminutes
  have hlt : z.minutes.value < 60 := Nat.lt_succ_of_le z.minutes_le
  unfold chars sign total
  cases z.ahead <;> simp [takeOffset?, hhours, takeMark?_self, hminutes, hlt]

theorem exactZone?_chars (z : Offset) : exactZone? z.chars = some z.total := by
  have hsign : z.sign ≠ 'Z' ∧ z.sign ≠ 'z' := by
    rcases z.sign_eq with h | h <;> rw [h] <;> decide
  have htake := z.takeOffset?_chars
  unfold exactZone?
  split
  · next h => exact absurd (List.cons.inj h).1 hsign.1
  · next h => exact absurd (List.cons.inj h).1 hsign.2
  · rw [htake]

end Offset

/-! ### Times in full -/

/-- A time on a day with every number at its full width. -/
structure FullForm where
  /-- The year. -/
  year : Digits 4
  /-- The month. -/
  month : Digits 2
  /-- The day. -/
  day : Digits 2
  /-- What stands between the day and the time. -/
  separator : Char
  /-- It is a space or a `T`. -/
  separator_eq : separator = ' ' ∨ separator = 'T'
  /-- The hour. -/
  hour : Digits 2
  /-- The minute. -/
  minute : Digits 2
  /-- The seconds, which may be left out. -/
  seconds : Option Seconds

namespace FullForm

/-- The day as it is written. -/
def dayChars (f : FullForm) : List Char :=
  f.year.chars ++ '-' :: (f.month.chars ++ '-' :: f.day.chars)

/-- What stands behind the minutes. -/
def secondsChars (f : FullForm) : List Char :=
  match f.seconds with
  | none => []
  | some s => ':' :: s.chars

/-- The clock as it is written. -/
def clockChars (f : FullForm) : List Char :=
  f.hour.chars ++ ':' :: (f.minute.chars ++ f.secondsChars)

/-- A time in full as it is written. -/
def chars (f : FullForm) : List Char := f.dayChars ++ f.separator :: f.clockChars

/-- A time in full with a zone behind it. -/
theorem chars_append (f : FullForm) (rest : List Char) :
    f.chars ++ rest = f.year.chars ++ '-' :: (f.month.chars ++ '-' :: (f.day.chars ++ f.separator ::
      (f.hour.chars ++ ':' :: (f.minute.chars ++ (f.secondsChars ++ rest))))) := by
  simp [chars, dayChars, clockChars]

theorem takeSeparator?_separator (f : FullForm) (rest : List Char) :
    takeSeparator? (f.separator :: rest) = some rest := by
  rcases f.separator_eq with h | h <;> rw [h] <;> rfl

/-- A reader that gives something is followed by what reads on from there. -/
theorem bind_of_eq_some {α β : Type} {o : Option α} {a : α} (h : o = some a) (f : α → Option β) :
    o.bind f = f a := by
  rw [h, Option.bind_some]

/-- What the exact form makes of a time in full up to its minutes. -/
theorem readStrict?_append (f : FullForm) (rest : List Char) :
    readStrict? (f.chars ++ rest) = (takeMark? ':' (f.secondsChars ++ rest)).bind fun cs =>
      (takeNumber? 2 2 cs).bind fun (second, cs) => (takePointed? cs).bind fun (nano, cs) =>
        (exactZone? cs).bind fun zone => some
          { year := f.year.value, month := f.month.value, day := f.day.value, hour := f.hour.value,
            minute := f.minute.value, second, nano, zone } := by
  rw [chars_append]
  calc readStrict? _
    _ = _ := bind_of_eq_some (f.year.takeNumber?_append le_rfl _) _
    _ = _ := bind_of_eq_some (takeMark?_self '-' _) _
    _ = _ := bind_of_eq_some (f.month.takeNumber?_append le_rfl _) _
    _ = _ := bind_of_eq_some (takeMark?_self '-' _) _
    _ = _ := bind_of_eq_some (f.day.takeNumber?_append le_rfl _) _
    _ = _ := bind_of_eq_some (f.takeSeparator?_separator _) _
    _ = _ := bind_of_eq_some (f.hour.takeNumber?_append le_rfl _) _
    _ = _ := bind_of_eq_some (takeMark?_self ':' _) _
    _ = _ := bind_of_eq_some (f.minute.takeNumber?_append le_rfl _) _

variable {f : FullForm}

/-- **The exact form reads a time with seconds and a zone**, number by number. -/
theorem readStrict?_zoned {s : Seconds} (hs : f.seconds = some s) (z : Offset) :
    readStrict? (f.chars ++ z.chars) = some
      { year := f.year.value, month := f.month.value, day := f.day.value, hour := f.hour.value,
        minute := f.minute.value, second := s.whole.value, nano := s.nano, zone := z.total } := by
  have hchars : f.secondsChars ++ z.chars = ':' :: (s.whole.chars ++ (s.fractionChars ++ z.chars)) := by
    simp [secondsChars, hs, Seconds.chars]
  have hpointed : takePointed? (s.fractionChars ++ z.chars) = some (s.nano, z.chars) := by
    refine s.takePointed?_append fun c hc => ?_
    obtain rfl : z.sign = c := Option.some.inj hc
    rcases z.sign_eq with h | h <;> rw [h] <;> decide
  simp only [readStrict?_append, hchars, takeMark?_self, s.whole.takeNumber?_append le_rfl, hpointed,
    z.exactZone?_chars, Option.bind_some]

/-- **It reads no time without seconds**, whatever comes behind the minutes but a colon. -/
theorem readStrict?_without_seconds (hf : f.seconds = none) {c : Char} (hc : c ≠ ':')
    (rest : List Char) : readStrict? (f.chars ++ c :: rest) = none := by
  have hmark : takeMark? ':' (f.secondsChars ++ c :: rest) = none := by
    simp [secondsChars, hf, takeMark?, hc.symm]
  rw [readStrict?_append, hmark, Option.bind_none]

end FullForm

end Filterbook.Calendar

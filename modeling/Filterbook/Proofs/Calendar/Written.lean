import Filterbook.Proofs.Calendar.FullForm
import Filterbook.Proofs.Number.Written

/-!
# Written dates and times

Every day and every time of day has one text, and patterns and instants read it as what it is the text of: a
year outside the four digits has its sign, a leap second is second 60, and a fraction has as many digits as
it needs.

## What is proved

* `Date.writesYear_yearChars`, `Date.dayInFront_chars`: a written day stands in front of whatever follows.
* `TimeOfDay.ofClock?_clock`: the four numbers that are written of a time make the time, leap seconds
  included.
* `TimeOfDay.readItems?_chars`: the items of a clock read a written time.
* `readInstant?_instantText`: an instant is read from its text.
-/

namespace Filterbook.Calendar

open Number Text

/-! ### Numbers of two digits -/

theorem writesNumber_padDigits {n : Nat} (h : n < 100) : WritesNumber (padDigits 2 n) n where
  all := fun _ => isDigit_of_mem_padDigits
  ne_nil := padDigits_ne_nil 2 n
  length_le := (length_padDigits (by decide) h).le
  value := digitsValue_padDigits 2 n

section Items

variable {items : List Item} {r : Reading} {rest : List Char}

theorem readItems?_of_read? {item : Item} {r' : Reading} {cs : List Char}
    (h : item.read? r cs = some (r', rest)) :
    readItems? (item :: items) r cs = readItems? items r' rest := by
  rw [readItems?, h, Option.bind_some]

/-- An item of one or two digits reads a written number within its bounds. -/
theorem readItems?_padDigits (item : Item) {low high n : Nat} (h : item.bounds? = some (low, high))
    (hsmall : n < 100) (hlow : low ≤ n) (hhigh : n ≤ high) :
    readItems? (item :: items) r (padDigits 2 n ++ rest) = readItems? items (item.store n r) rest := by
  have hlength : ¬ (padDigits 2 n).length < 2 := by simp [length_padDigits (show 0 < 2 by decide) hsmall]
  exact readItems?_of_read? ((Item.read?_eq_some_iff h).mpr ⟨[], padDigits 2 n, n, rfl, nofun,
    writesNumber_padDigits hsmall, fun hshort => absurd hshort hlength, hlow, hhigh, rfl⟩)

/-- Blanks are read where there are none. -/
theorem readItems?_blanks (h : ∀ c ∈ rest.head?, isBlank c = false) :
    readItems? (.blanks :: items) r rest = readItems? items r rest :=
  readItems?_of_read? (by rw [Item.read?, dropBlanks_of_head h])

/-- A mark behind blanks, where there are none. -/
theorem readItems?_blanks_mark {c : Char} (h : isBlank c = false) :
    readItems? (.blanks :: .mark c :: items) r (c :: rest) = readItems? items r rest := by
  rw [readItems?_blanks, readItems?_mark]
  rintro _ ⟨⟩
  exact h

end Items

/-! ### Days -/

namespace Date

/-- **A written year is read as the year**, in and outside the four digits. -/
theorem writesYear_yearChars (year : Int) : WritesYear (yearChars year) year := by
  have hvalue : digitsValue (padDigits 4 year.natAbs) = year.natAbs := digitsValue_padDigits 4 _
  have hall : AllDigits (padDigits 4 year.natAbs) := fun _ => isDigit_of_mem_padDigits
  have hne : padDigits 4 year.natAbs ≠ [] := padDigits_ne_nil 4 _
  by_cases hfour : 0 ≤ year ∧ year ≤ 9999
  · have hlength : (padDigits 4 year.natAbs).length ≤ 4 := (length_padDigits (by decide) (by omega)).le
    have hwrites := WritesYear.plain hall hne hlength
    have hyear : (year.natAbs : Int) = year := by omega
    rw [hvalue, hyear] at hwrites
    simpa [yearChars, hfour] using hwrites
  · by_cases hneg : year < 0
    · have hwrites := WritesYear.negative hall hne
      have hyear : -(year.natAbs : Int) = year := by omega
      rw [hvalue, hyear] at hwrites
      simpa [yearChars, hfour, hneg] using hwrites
    · have hwrites := WritesYear.positive hall hne
      have hyear : (year.natAbs : Int) = year := by omega
      rw [hvalue, hyear] at hwrites
      simpa [yearChars, hfour, hneg] using hwrites

theorem chars_append (d : Date) (rest : List Char) :
    d.chars ++ rest = yearChars d.year ++
      '-' :: (padDigits 2 d.month ++ '-' :: (padDigits 2 d.day ++ rest)) := by
  simp [chars]

/-- A written day has digits, hyphens and the sign of its year. -/
theorem cases_of_mem_chars {d : Date} {c : Char} (hc : c ∈ d.chars) :
    isDigit c = true ∨ c = '-' ∨ c = '+' := by
  have hdigits : ∀ width n, c ∈ padDigits width n → isDigit c = true ∨ c = '-' ∨ c = '+' :=
    fun width n h => .inl (isDigit_of_mem_padDigits h)
  have hyear : c ∈ yearChars d.year → isDigit c = true ∨ c = '-' ∨ c = '+' := by
    unfold yearChars
    split_ifs with _ hneg
    · exact hdigits _ _
    · exact fun h => (List.mem_cons.mp h).elim (fun h => .inr (.inl h)) (hdigits _ _)
    · exact fun h => (List.mem_cons.mp h).elim (fun h => .inr (.inr h)) (hdigits _ _)
  simp only [chars, List.mem_append, List.mem_cons] at hc
  rcases hc with (hc | hc | hc) | hc | hc
  · exact hyear hc
  · exact .inr (.inl hc)
  · exact hdigits _ _ hc
  · exact .inr (.inl hc)
  · exact hdigits _ _ hc

theorem chars_ne_nil (d : Date) : d.chars ≠ [] := by simp [chars]

theorem month_lt (d : Date) : d.month < 100 := by
  have := d.bounds.2.1.2
  omega

theorem day_lt (d : Date) : d.day < 100 := by
  have := d.day_le
  omega

/-- **A written day stands in front of whatever follows.** -/
theorem dayInFront_chars (d : Date) (rest : List Char) :
    DayInFront rest d.year d.month d.day (d.chars ++ rest) := by
  have hlength : ¬ (padDigits 2 d.day).length < 2 := by
    simp [length_padDigits (show 0 < 2 by decide) d.day_lt]
  have hnone : ∀ b ∈ ([] : List Char), isBlank b = true := nofun
  rw [chars_append]
  exact .intro hnone hnone hnone (writesYear_yearChars d.year) (writesNumber_padDigits d.month_lt)
    (writesNumber_padDigits d.day_lt) fun hshort => absurd hshort hlength

end Date

/-! ### Times of day -/

/-- A written fraction is read as its nanoseconds. -/
theorem takeFraction?_padDigits {width n : Nat} (hwidth : 0 < width ∧ width ≤ 9) (hn : n < 10 ^ width)
    {rest : List Char} (hrest : NoDigitFirst rest) :
    takeFraction? (padDigits width n ++ rest) = some (n * tenTo (9 - width), rest) := by
  have hlength : (padDigits width n).length = width := length_padDigits hwidth.1 hn
  refine takeFraction?_eq_some_iff.mpr ⟨padDigits width n, rfl, fun _ => isDigit_of_mem_padDigits,
    padDigits_ne_nil width n, hrest, ?_⟩
  rw [fractionNanos, List.take_of_length_le (by omega), digitsValue_padDigits, hlength]

namespace TimeOfDay

theorem nano_bounds (t : TimeOfDay) :
    t.second < 60 ∧ (t.nano < 1000000000 ∨ t.second = 59 ∧ t.nano < 2000000000) := by
  have h := t.isTime
  simp only [Calendar.isTime, Bool.and_eq_true, Bool.or_eq_true, decide_eq_true_eq, beq_iff_eq] at h
  exact ⟨h.1.2, h.2⟩

/-- The second that is written, up to 60. -/
theorem clockSecond_le (t : TimeOfDay) : t.second + t.nano / 1000000000 ≤ 60 := by
  have := t.nano_bounds
  omega

/-- **The four numbers that are written of a time make the time**, leap seconds included. -/
theorem ofClock?_clock (t : TimeOfDay) :
    ofClock? t.hour t.minute (t.second + t.nano / 1000000000) (t.nano % 1000000000) = some t := by
  obtain ⟨hsecond, hnano | ⟨hleap, hnano⟩⟩ := t.nano_bounds
  · rw [ofClock?, if_neg (by omega), make?_eq_some_iff]
    omega
  · by_cases hwhole : t.nano < 1000000000
    · rw [ofClock?, if_neg (by omega), make?_eq_some_iff]
      omega
    · rw [ofClock?, if_pos (by omega), make?_eq_some_iff]
      omega

theorem chars_append (t : TimeOfDay) (rest : List Char) :
    t.chars ++ rest = padDigits 2 t.hour ++ ':' :: (padDigits 2 t.minute ++ ':' ::
      (padDigits 2 (t.second + t.nano / 1000000000) ++ (fractionChars (t.nano % 1000000000) ++ rest))) := by
  simp [chars, clockChars]

/-- A written time has digits, colons and the point of its fraction. -/
theorem cases_of_mem_chars {t : TimeOfDay} {c : Char} (hc : c ∈ t.chars) :
    isDigit c = true ∨ c = ':' ∨ c = '.' := by
  have hdigits : ∀ width n, c ∈ padDigits width n → isDigit c = true ∨ c = ':' ∨ c = '.' :=
    fun width n h => .inl (isDigit_of_mem_padDigits h)
  have hfraction : ∀ nano, c ∈ fractionChars nano → isDigit c = true ∨ c = ':' ∨ c = '.' := by
    intro nano h
    unfold fractionChars at h
    split_ifs at h
    · cases h
    all_goals exact (List.mem_cons.mp h).elim (fun h => .inr (.inr h)) (hdigits _ _)
  simp only [chars, clockChars, List.mem_append, List.mem_cons] at hc
  rcases hc with ((hc | hc | hc) | hc | hc) | hc
  · exact hdigits _ _ hc
  · exact .inr (.inl hc)
  · exact hdigits _ _ hc
  · exact .inr (.inl hc)
  · exact hdigits _ _ hc
  · exact hfraction _ hc

theorem chars_ne_nil (t : TimeOfDay) : t.chars ≠ [] := by simp [chars, clockChars]

section Items

variable {items : List Item} {r : Reading} {rest : List Char}

/-- A written fraction, in front of what is no part of it. -/
theorem readItems?_fractionChars {nano : Nat} (hnano : nano < 1000000000) (hr : r.nano = 0)
    (hrest : ∀ c ∈ rest.head?, isDigit c = false ∧ c ≠ '.') :
    readItems? (.fraction :: items) r (fractionChars nano ++ rest) =
      readItems? items { r with nano := nano } rest := by
  have hdigits : NoDigitFirst rest := fun c hc => (hrest c hc).1
  refine readItems?_of_read? ?_
  unfold fractionChars
  split_ifs with hzero hmillis hmicros
  · subst hzero
    rw [List.nil_append, Item.read?]
    · cases r
      cases hr
      rfl
    · rintro tail rfl
      exact absurd rfl (hrest '.' rfl).2
  · have hvalue : nano / 1000000 * tenTo (9 - 3) = nano := by
      show nano / 1000000 * 1000000 = nano
      omega
    rw [List.cons_append, Item.read?, takeFraction?_padDigits (by decide) (by omega) hdigits, hvalue]
    rfl
  · have hvalue : nano / 1000 * tenTo (9 - 6) = nano := by
      show nano / 1000 * 1000 = nano
      omega
    rw [List.cons_append, Item.read?, takeFraction?_padDigits (by decide) (by omega) hdigits, hvalue]
    rfl
  · rw [List.cons_append, Item.read?, takeFraction?_padDigits (by decide) hnano hdigits]
    simp [tenTo]

variable (t : TimeOfDay)

/-- The item of the hour reads a written hour. -/
theorem readItems?_hour : readItems? (.hour :: items) r (padDigits 2 t.hour ++ rest) =
    readItems? items { r with hour := t.hour } rest := by
  have hhour := t.bounds.1
  exact readItems?_padDigits .hour rfl (by omega) (Nat.zero_le _) (by omega)

/-- The item of the minute reads a written minute. -/
theorem readItems?_minute : readItems? (.minute :: items) r (padDigits 2 t.minute ++ rest) =
    readItems? items { r with minute := t.minute } rest := by
  have hminute := t.bounds.2
  exact readItems?_padDigits .minute rfl (by omega) (Nat.zero_le _) (by omega)

/-- The items of the second read a written second with its fraction, in front of what is no part of it. -/
theorem readItems?_secondFraction (hr : r.nano = 0) (hrest : ∀ c ∈ rest.head?, isDigit c = false ∧ c ≠ '.') :
    readItems? (.second :: .fraction :: items) r
        (padDigits 2 (t.second + t.nano / 1000000000) ++ (fractionChars (t.nano % 1000000000) ++ rest)) =
      readItems? items { r with second := t.second + t.nano / 1000000000, nano := t.nano % 1000000000 }
        rest := by
  have hsecond := t.clockSecond_le
  have hnano : t.nano % 1000000000 < 1000000000 := Nat.mod_lt _ (by decide)
  rw [readItems?_padDigits .second rfl (by omega) (Nat.zero_le _) hsecond,
    readItems?_fractionChars hnano (by exact hr) hrest]
  rfl

/-- A reading with the numbers that are written of a time. -/
def clock (r : Reading) : Reading :=
  { r with hour := t.hour, minute := t.minute, second := t.second + t.nano / 1000000000,
           nano := t.nano % 1000000000 }

theorem time?_clock (r : Reading) : (t.clock r).time? = some t := t.ofClock?_clock

/-- **The items of a clock read a written time.** -/
theorem readItems?_chars (hr : r.nano = 0) (hrest : ∀ c ∈ rest.head?, isDigit c = false ∧ c ≠ '.') :
    readItems? (secondItems ++ items) r (t.chars ++ rest) = readItems? items (t.clock r) rest := by
  have hitems : secondItems ++ items =
      .hour :: .mark ':' :: .minute :: .mark ':' :: .second :: .fraction :: items := rfl
  rw [hitems, chars_append, readItems?_hour, readItems?_mark, readItems?_minute, readItems?_mark,
    readItems?_secondFraction t (by exact hr) hrest]
  rfl

end Items

/-- A pattern of a clock with seconds fits a written time. -/
theorem fit?_chars (t : TimeOfDay) : fit? secondItems t.chars = some (t.clock {}) := by
  have hread : readItems? (secondItems ++ []) {} (t.chars ++ []) = some (t.clock {}, []) :=
    t.readItems?_chars rfl (by simp)
  rw [List.append_nil, List.append_nil] at hread
  rw [fit?, hread]

end TimeOfDay

/-! ### Instants -/

/-- No minutes earlier is the same time. -/
theorem DateTime.subMinutes?_zero (t : DateTime) : t.subMinutes? 0 = some t := by
  obtain ⟨hhour, hminute⟩ := t.time.bounds
  have hday : ((t.time.hour * 60 + t.time.minute - 0 : Int) % 1440).toNat =
      t.time.hour * 60 + t.time.minute := by omega
  have htime : TimeOfDay.make? ((t.time.hour * 60 + t.time.minute) / 60)
      ((t.time.hour * 60 + t.time.minute) % 60) t.time.second t.time.nano = some t.time := by
    rw [TimeOfDay.make?_eq_some_iff]
    omega
  simp only [subMinutes?, hday, htime]
  rw [if_neg (by omega), if_pos (by omega)]
  rfl

/-- The items of the clock of an instant read a written time with a `Z` behind it. -/
theorem readItems?_instantClock (t : TimeOfDay) (r : Reading) (hr : r.nano = 0) :
    readItems? [.hour, .blanks, .mark ':', .minute, .blanks, .mark ':', .second, .fraction, .blanks] r
      (t.chars ++ ['Z']) = some (t.clock r, ['Z']) := by
  have hcolon : isBlank ':' = false := by decide
  have hZ : ∀ c ∈ ['Z'].head?, isDigit c = false ∧ c ≠ '.' := by simp; decide
  rw [TimeOfDay.chars_append, t.readItems?_hour, readItems?_blanks_mark hcolon, t.readItems?_minute,
    readItems?_blanks_mark hcolon, t.readItems?_secondFraction (by exact hr) hZ,
    readItems?_blanks (by simp; decide)]
  rfl

/-- The items of the day of an instant read a written day. -/
theorem readItems?_instantDay (d : Date) (rest : List Char) :
    readItems? [.year, .blanks, .mark '-', .month, .blanks, .mark '-', .day] {} (d.chars ++ rest) =
      some ({ year := d.year, month := d.month, day := d.day }, rest) := by
  obtain ⟨-, hmonth, hday, -⟩ := d.bounds
  have hhyphen : isBlank '-' = false := by decide
  have hwrites := Date.writesYear_yearChars d.year
  rw [Date.chars_append]
  generalize htail : padDigits 2 d.month ++ '-' :: (padDigits 2 d.day ++ rest) = tail
  have htake : takeYear? (Date.yearChars d.year ++ '-' :: tail) = some (d.year, '-' :: tail) :=
    takeYear?_of_writes hwrites (noDigitFirst_cons (by decide) tail)
  have hblanks : dropBlanks (Date.yearChars d.year ++ '-' :: tail) = Date.yearChars d.year ++ '-' :: tail :=
    (dropBlanks_eq_append_iff hwrites.ne_nil hwrites.not_blank).mpr ⟨[], rfl, nofun⟩
  have hyear : Item.year.read? {} (Date.yearChars d.year ++ '-' :: tail) =
      some ({ year := d.year }, '-' :: tail) := by
    rw [Item.read?, hblanks, htake]
    rfl
  rw [readItems?_of_read? hyear, readItems?_blanks_mark hhyphen, ← htail,
    readItems?_padDigits .month rfl d.month_lt hmonth.1 hmonth.2, readItems?_blanks_mark hhyphen,
    readItems?_padDigits .day rfl d.day_lt hday d.day_le]
  rfl

/-- **An instant is read from its text**, to the nanosecond. -/
theorem readInstant?_instantText (t : DateTime) : readInstant? t.instantText = some t := by
  have hchars : t.instantText.toList = t.date.chars ++ 'T' :: (t.time.chars ++ ['Z']) := by
    simp [DateTime.instantText, DateTime.charsWith]
  have hseparator : takeSeparator? ('T' :: (t.time.chars ++ ['Z'])) = some (t.time.chars ++ ['Z']) := rfl
  have hzone : takeInstantZone? ['Z'] = some (0, []) := by decide
  have hclock := readItems?_instantClock t.time
    { year := t.date.year, month := t.date.month, day := t.date.day } rfl
  have hdate : Date.make? t.date.year t.date.month t.date.day = some t.date :=
    Date.make?_eq_some_iff.mpr ⟨rfl, rfl, rfl⟩
  simp only [readInstant?, hchars, readItems?_instantDay, hseparator, hclock, hzone, Option.bind_eq_bind,
    Option.bind_some]
  show Reading.utc? _ = some t
  simp only [Reading.utc?, Reading.local?, Reading.date?, Reading.time?, TimeOfDay.clock, hdate,
    t.time.ofClock?_clock, Option.bind_eq_bind, Option.bind_some]
  rw [if_pos (by decide)]
  exact t.subMinutes?_zero

end Filterbook.Calendar

import Filterbook.Calendar.Time
import Mathlib.Algebra.Order.SuccPred
import Mathlib.Data.Int.SuccPred
import Mathlib.Data.Nat.SuccPred
import Mathlib.Tactic.SplitIfs

/-!
# Counting days and minutes

Days are numbered one after another over months and years, and minutes over days. A day is known by its
number, the day after has the next one, and so a time some minutes earlier is the one whose minute has a
number less by as many.

## What is proved

* `Date.dayNumber_next?`, `Date.dayNumber_previous?`: the day after and the day before.
* `Date.dayNumber_inj`: no two days have one number.
* `DateTime.exists_earlier`, `DateTime.Earlier.unique`: there is a time some minutes earlier, but for the
  ends of the calendar, and only one.
-/

namespace Filterbook.Calendar

/-! ### Months -/

theorem daysInMonth_le (year : Int) (month : Nat) : daysInMonth year month ≤ 31 := by
  unfold daysInMonth
  split
  · split <;> omega
  all_goals omega

theorem month_of_daysInMonth_pos {year : Int} {month : Nat} (h : 0 < daysInMonth year month) :
    1 ≤ month ∧ month ≤ 12 := by
  unfold daysInMonth at h
  split at h <;> omega

theorem le_daysInMonth (year : Int) {month : Nat} (h : 1 ≤ month ∧ month ≤ 12) :
    28 ≤ daysInMonth year month := by
  unfold daysInMonth
  split <;> grind

namespace Date

theorem make?_eq_some_iff {year : Int} {month day : Nat} {d : Date} :
    make? year month day = some d ↔ d.year = year ∧ d.month = month ∧ d.day = day := by
  unfold make?
  split
  · rw [Option.some.injEq]
    constructor
    · rintro rfl
      exact ⟨rfl, rfl, rfl⟩
    · rintro ⟨rfl, rfl, rfl⟩
      rfl
  · next hnot =>
    refine ⟨nofun, ?_⟩
    rintro ⟨rfl, rfl, rfl⟩
    exact absurd d.isDate hnot

theorem bounds (d : Date) :
    (-262143 ≤ d.year ∧ d.year ≤ 262142) ∧ (1 ≤ d.month ∧ d.month ≤ 12) ∧
      1 ≤ d.day ∧ d.day ≤ daysInMonth d.year d.month := by
  have h := d.isDate
  simp only [Calendar.isDate, Bool.and_eq_true, decide_eq_true_eq] at h
  obtain ⟨⟨hyear, hleast⟩, hmost⟩ := h
  exact ⟨hyear, month_of_daysInMonth_pos (hleast.trans hmost), hleast, hmost⟩

theorem day_le (d : Date) : d.day ≤ 31 := d.bounds.2.2.2.trans (daysInMonth_le _ _)

/-- There is a day with a day number that its month has, in a year of the calendar. -/
theorem exists_make? {year : Int} {month day : Nat} (hyear : -262143 ≤ year ∧ year ≤ 262142)
    (hleast : 1 ≤ day) (hmost : day ≤ daysInMonth year month) : ∃ d, make? year month day = some d := by
  have h : Calendar.isDate year month day = true := by simp [Calendar.isDate, hyear, hleast, hmost]
  exact ⟨_, dif_pos h⟩

end Date

/-! ### Day numbers -/

/-- The days from the first of January of the year 1 to that of this year. -/
def daysBeforeYear (year : Int) : Int :=
  365 * (year - 1) + (year - 1) / 4 - (year - 1) / 100 + (year - 1) / 400

/-- The days of the year in front of a month. -/
def daysBeforeMonth (year : Int) : (month : Nat) → Nat
  | 0 => 0
  | month + 1 => daysBeforeMonth year month + daysInMonth year month

/-- The days of a year. -/
def daysInYear (year : Int) : Nat := daysBeforeMonth year 13

theorem daysInYear_eq (year : Int) : daysInYear year = if isLeapYear year then 366 else 365 := by
  simp only [daysInYear, daysBeforeMonth, daysInMonth]
  split_ifs <;> rfl

theorem daysBeforeYear_succ (year : Int) :
    daysBeforeYear (year + 1) = daysBeforeYear year + daysInYear year := by
  rw [daysInYear_eq]
  simp only [daysBeforeYear, isLeapYear, Bool.and_eq_true, Bool.or_eq_true, beq_iff_eq, bne_iff_ne]
  split_ifs <;> omega

theorem daysBeforeYear_le {y z : Int} (h : y ≤ z) : daysBeforeYear y ≤ daysBeforeYear z := by
  simp only [daysBeforeYear]
  omega

theorem daysBeforeMonth_mono (year : Int) : Monotone (daysBeforeMonth year) :=
  monotone_nat_of_le_succ fun _ => Nat.le_add_right ..

namespace Date

/-- The number of a day, the first of January of the year 1 being the first. -/
def dayNumber (d : Date) : Int := daysBeforeYear d.year + daysBeforeMonth d.year d.month + d.day

variable {d e : Date}

/-- **The day after has the next number.** -/
theorem dayNumber_next? (h : d.next? = some e) : e.dayNumber = d.dayNumber + 1 := by
  obtain ⟨-, ⟨-, hmonth⟩, -, hday⟩ := d.bounds
  unfold next? at h
  split_ifs at h with hin hyear <;> obtain ⟨hy, hm, hd⟩ := make?_eq_some_iff.mp h <;>
    simp only [dayNumber, hy, hm, hd]
  · omega
  · -- the month is over
    simp only [daysBeforeMonth]
    omega
  · -- and the year as well
    have hlast : d.month = 12 := by omega
    have hover : daysBeforeMonth d.year 12 + daysInMonth d.year 12 = daysInYear d.year := rfl
    have hfirst : daysBeforeMonth (d.year + 1) 1 = 0 := rfl
    rw [hlast] at hin hday ⊢
    rw [daysBeforeYear_succ, hfirst]
    omega

/-- **The day before has the number before.** -/
theorem dayNumber_previous? (h : d.previous? = some e) : e.dayNumber = d.dayNumber - 1 := by
  obtain ⟨-, ⟨hmonth, -⟩, hday, -⟩ := d.bounds
  unfold previous? at h
  split_ifs at h with hin hyear <;> obtain ⟨hy, hm, hd⟩ := make?_eq_some_iff.mp h <;>
    simp only [dayNumber, hy, hm, hd]
  · omega
  · -- the last day of the month before
    have hover : daysBeforeMonth d.year d.month =
        daysBeforeMonth d.year (d.month - 1) + daysInMonth d.year (d.month - 1) := by
      conv_lhs => rw [← Nat.sub_add_cancel hmonth, daysBeforeMonth]
    omega
  · -- the last day of the year before
    have hfirst : d.month = 1 := by omega
    have hover : daysBeforeMonth (d.year - 1) 12 + 31 = daysInYear (d.year - 1) := rfl
    have hyears := daysBeforeYear_succ (d.year - 1)
    have hnone : daysBeforeMonth d.year 1 = 0 := rfl
    rw [Int.sub_add_cancel] at hyears
    rw [hfirst, hnone]
    omega

theorem exists_next? (h : d.year < 262142) : ∃ e, d.next? = some e := by
  obtain ⟨⟨hleast, -⟩, ⟨hmonth, -⟩, hday, -⟩ := d.bounds
  unfold next?
  split_ifs with hin hyear
  · exact exists_make? (by omega) (by omega) hin
  · have hdays : 28 ≤ daysInMonth d.year (d.month + 1) := le_daysInMonth d.year (by omega)
    exact exists_make? (by omega) le_rfl (by omega)
  · exact exists_make? (by omega) le_rfl (Nat.le_of_ble_eq_true rfl)

theorem exists_previous? (h : -262143 < d.year) : ∃ e, d.previous? = some e := by
  obtain ⟨⟨-, hmost⟩, ⟨-, hmonth⟩, -, hday⟩ := d.bounds
  unfold previous?
  split_ifs with hin hyear
  · exact exists_make? (by omega) (by omega) (by omega)
  · have hdays : 28 ≤ daysInMonth d.year (d.month - 1) := le_daysInMonth d.year (by omega)
    exact exists_make? (by omega) (by omega) le_rfl
  · exact exists_make? (by omega) (by decide) (Nat.le_refl 31)

/-- A day lies behind the months before its own and within its own. -/
theorem dayOfYear_bounds (d : Date) :
    daysBeforeMonth d.year d.month < daysBeforeMonth d.year d.month + d.day ∧
      daysBeforeMonth d.year d.month + d.day ≤ daysBeforeMonth d.year (d.month + 1) := by
  obtain ⟨-, -, hleast, hmost⟩ := d.bounds
  simp only [daysBeforeMonth]
  omega

/-- A day lies behind the years before its own and within its own. -/
theorem dayNumber_bounds (d : Date) :
    daysBeforeYear d.year < d.dayNumber ∧ d.dayNumber ≤ daysBeforeYear (d.year + 1) := by
  obtain ⟨-, ⟨-, hmonth⟩, -, -⟩ := d.bounds
  obtain ⟨hleast, hmost⟩ := d.dayOfYear_bounds
  have hyear : daysBeforeMonth d.year (d.month + 1) ≤ daysInYear d.year :=
    daysBeforeMonth_mono d.year (show d.month + 1 ≤ 13 by omega)
  rw [daysBeforeYear_succ, dayNumber]
  omega

end Date

/-- Of the stretches between the steps of a count, only one holds a number. -/
theorem eq_of_between {α β : Type} [LinearOrder α] [One α] [Add α] [SuccAddOrder α] [LinearOrder β]
    {count : α → β} (hcount : Monotone count) {i j : α} {n : β} (hi : count i < n ∧ n ≤ count (i + 1))
    (hj : count j < n ∧ n ≤ count (j + 1)) : i = j := by
  rcases lt_trichotomy i j with hlt | heq | hlt
  · exact absurd (hi.2.trans (hcount (Order.add_one_le_of_lt hlt))) (not_le.mpr hj.1)
  · exact heq
  · exact absurd (hj.2.trans (hcount (Order.add_one_le_of_lt hlt))) (not_le.mpr hi.1)

/-- **No two days have one number.** -/
theorem Date.dayNumber_inj {d e : Date} : d.dayNumber = e.dayNumber ↔ d = e := by
  refine ⟨fun h => ?_, fun h => h ▸ rfl⟩
  have hyear : d.year = e.year :=
    eq_of_between (fun _ _ h => daysBeforeYear_le h) d.dayNumber_bounds (h ▸ e.dayNumber_bounds)
  have hday : daysBeforeMonth d.year d.month + d.day = daysBeforeMonth d.year e.month + e.day := by
    simp only [Date.dayNumber, hyear] at h ⊢
    omega
  have hmonth : d.month = e.month :=
    eq_of_between (daysBeforeMonth_mono d.year) d.dayOfYear_bounds
      (hday ▸ hyear ▸ e.dayOfYear_bounds)
  obtain ⟨_, _, _, _⟩ := d
  obtain ⟨_, _, _, _⟩ := e
  cases hyear
  cases hmonth
  cases Nat.add_left_cancel hday
  rfl

/-! ### Minutes -/

theorem TimeOfDay.bounds (t : TimeOfDay) : t.hour < 24 ∧ t.minute < 60 := by
  have h := t.isTime
  simp only [Calendar.isTime, Bool.and_eq_true, decide_eq_true_eq] at h
  exact h.1.1

theorem TimeOfDay.make?_eq_some_iff {hour minute second nano : Nat} {t : TimeOfDay} :
    make? hour minute second nano = some t ↔
      t.hour = hour ∧ t.minute = minute ∧ t.second = second ∧ t.nano = nano := by
  unfold make?
  split
  · rw [Option.some.injEq]
    constructor
    · rintro rfl
      exact ⟨rfl, rfl, rfl, rfl⟩
    · rintro ⟨rfl, rfl, rfl, rfl⟩
      rfl
  · next hnot =>
    refine ⟨nofun, ?_⟩
    rintro ⟨rfl, rfl, rfl, rfl⟩
    exact absurd t.isTime hnot

namespace DateTime

/-- The number of the minute that a time lies in. -/
def minuteNumber (t : DateTime) : Int :=
  t.date.dayNumber * 1440 + t.time.hour * 60 + t.time.minute

/-- One time is some minutes before another, or after it when they are negative. -/
structure Earlier (minutes : Int) (earlier t : DateTime) : Prop where
  /-- The minute is that many before. -/
  minuteNumber : earlier.minuteNumber = t.minuteNumber - minutes
  /-- The second is the same. -/
  second : earlier.time.second = t.time.second
  /-- So are the nanoseconds. -/
  nano : earlier.time.nano = t.time.nano

variable {t u : DateTime}

/-- Times of one minute, second and nanosecond are the same. -/
theorem eq_of_minuteNumber (hminute : t.minuteNumber = u.minuteNumber)
    (hsecond : t.time.second = u.time.second) (hnano : t.time.nano = u.time.nano) : t = u := by
  obtain ⟨htHour, htMinute⟩ := t.time.bounds
  obtain ⟨huHour, huMinute⟩ := u.time.bounds
  simp only [minuteNumber] at hminute
  have hdate : t.date = u.date := Date.dayNumber_inj.mp (by omega)
  have htime : t.time.hour = u.time.hour ∧ t.time.minute = u.time.minute := by
    rw [hdate] at hminute
    omega
  obtain ⟨_, ⟨_, _, _, _, _⟩⟩ := t
  obtain ⟨_, ⟨_, _, _, _, _⟩⟩ := u
  cases hdate
  cases htime.1
  cases htime.2
  cases hsecond
  cases hnano
  rfl

/-- **There is one time at most that many minutes earlier**, and it is the same for times that the minutes
bring together. -/
theorem Earlier.unique {minutes minutes' : Int} {t' u' : DateTime} (h : Earlier minutes u t)
    (h' : Earlier minutes' u' t') (hminute : t.minuteNumber - minutes = t'.minuteNumber - minutes')
    (hsecond : t.time.second = t'.time.second) (hnano : t.time.nano = t'.time.nano) : u = u' :=
  eq_of_minuteNumber (h.minuteNumber.trans (hminute.trans h'.minuteNumber.symm))
    (h.second.trans (hsecond.trans h'.second.symm)) (h.nano.trans (hnano.trans h'.nano.symm))

/-- **A time less than a day earlier** is found inside the calendar, by the day before, the same day or the
day after. -/
theorem exists_earlier {minutes : Int} (hminutes : minutes.natAbs < 1440)
    (hyear : -262143 < t.date.year ∧ t.date.year < 262142) :
    ∃ u, t.subMinutes? minutes = some u ∧ Earlier minutes u t := by
  obtain ⟨hHour, hMinute⟩ := t.time.bounds
  generalize htotal : (t.time.hour * 60 + t.time.minute - minutes : Int) = total
  -- the day holds what the minutes of the day do not
  have hdate : ∃ date, (if total < 0 then t.date.previous? else if total < 1440 then some t.date
      else t.date.next?) = some date ∧ date.dayNumber * 1440 + total % 1440 =
        t.date.dayNumber * 1440 + total := by
    split_ifs with hbefore hwithin
    · obtain ⟨date, hdate⟩ := Date.exists_previous? hyear.1
      have hnumber := Date.dayNumber_previous? hdate
      exact ⟨date, hdate, by omega⟩
    · exact ⟨t.date, rfl, by omega⟩
    · obtain ⟨date, hdate⟩ := Date.exists_next? hyear.2
      have hnumber := Date.dayNumber_next? hdate
      exact ⟨date, hdate, by omega⟩
  obtain ⟨date, hdate, hnumber⟩ := hdate
  have hstep : t.subMinutes? minutes = (if total < 0 then t.date.previous? else if total < 1440 then
      some t.date else t.date.next?).bind fun date =>
        (TimeOfDay.make? ((total % 1440).toNat / 60) ((total % 1440).toNat % 60) t.time.second
          t.time.nano).bind fun time => some ⟨date, time⟩ := by
    simp only [subMinutes?, htotal]
    split_ifs <;> rfl
  have hclock : isTime ((total % 1440).toNat / 60) ((total % 1440).toNat % 60) t.time.second
      t.time.nano = true := by
    have htime := t.time.isTime
    simp only [isTime, Bool.and_eq_true, decide_eq_true_eq] at htime ⊢
    exact ⟨⟨by omega, htime.1.2⟩, htime.2⟩
  refine ⟨⟨date, ⟨_, _, _, _, hclock⟩⟩, ?_, ⟨?_, rfl, rfl⟩⟩
  · rw [hstep, hdate, TimeOfDay.make?, dif_pos hclock]
    rfl
  · simp only [minuteNumber]
    omega

end DateTime

end Filterbook.Calendar

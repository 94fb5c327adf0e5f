import Filterbook.Number.Digits

/-!
# Dates

Days of the Gregorian calendar, extended to all years of a fixed range.
-/

namespace Filterbook.Calendar

open Filterbook.Number

/-- Every fourth year, except centuries that four hundred does not divide. -/
def isLeapYear (year : Int) : Bool :=
  year % 4 == 0 && (year % 100 != 0 || year % 400 == 0)

/-- The number of days of a month; no days outside 1 to 12. -/
def daysInMonth (year : Int) : (month : Nat) → Nat
  | 2 => if isLeapYear year then 29 else 28
  | 4 | 6 | 9 | 11 => 30
  | 1 | 3 | 5 | 7 | 8 | 10 | 12 => 31
  | _ => 0

/-- A year within the range, a month of the year and a day of the month. -/
def isDate (year : Int) (month day : Nat) : Bool :=
  -262143 ≤ year && year ≤ 262142 && 1 ≤ day && day ≤ daysInMonth year month

/-- A day of the calendar. -/
structure Date where
  /-- The year; the year before 1 is 0. -/
  year : Int
  /-- The month, from 1. -/
  month : Nat
  /-- The day of the month, from 1. -/
  day : Nat
  /-- The three name a day. -/
  isDate : isDate year month day = true
  deriving DecidableEq

namespace Date

/-- The day with these three numbers, if there is one. -/
def make? (year : Int) (month day : Nat) : Option Date :=
  if h : Calendar.isDate year month day = true then some ⟨year, month, day, h⟩ else none

/-- The day after, unless it lies outside the range. -/
def next? (d : Date) : Option Date :=
  if d.day < daysInMonth d.year d.month then make? d.year d.month (d.day + 1)
  else if d.month < 12 then make? d.year (d.month + 1) 1
  else make? (d.year + 1) 1 1

/-- The day before, unless it lies outside the range. -/
def previous? (d : Date) : Option Date :=
  if 1 < d.day then make? d.year d.month (d.day - 1)
  else if 1 < d.month then make? d.year (d.month - 1) (daysInMonth d.year (d.month - 1))
  else make? (d.year - 1) 12 31

/-- The day a number of days later, unless it lies outside the range. -/
def after? (d : Date) : Nat → Option Date
  | 0 => some d
  | n + 1 => d.next?.bind (·.after? n)

/-- The order of two days. -/
def order (a b : Date) : Ordering :=
  (compare a.year b.year).then ((compare a.month b.month).then (compare a.day b.day))

/-- A year of four digits; outside 0 to 9999 a sign comes before four digits or more. -/
def yearChars (year : Int) : List Char :=
  if 0 ≤ year && year ≤ 9999 then padDigits 4 year.natAbs
  else (if year < 0 then '-' else '+') :: padDigits 4 year.natAbs

/-- Year, month and day between hyphens. -/
def chars (d : Date) : List Char :=
  yearChars d.year ++ '-' :: padDigits 2 d.month ++ '-' :: padDigits 2 d.day

/-- The text of a day. -/
def text (d : Date) : String := String.ofList d.chars

end Date

end Filterbook.Calendar

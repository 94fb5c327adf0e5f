import Filterbook.Calendar.Date

/-!
# Times

Times of day to the nanosecond and the joining of a date with a time. A leap second is held as second
59 with a second's worth of nanoseconds to spare.
-/

namespace Filterbook.Calendar

open Filterbook.Number

/-- The four numbers name a time of day. -/
def isTime (hour minute second nano : Nat) : Bool :=
  hour < 24 && minute < 60 && second < 60 &&
    (nano < 1000000000 || (second == 59 && nano < 2000000000))

/-- A time of day. -/
structure TimeOfDay where
  /-- The hour, from 0 to 23. -/
  hour : Nat
  /-- The minute, from 0 to 59. -/
  minute : Nat
  /-- The second, from 0 to 59. -/
  second : Nat
  /-- The nanoseconds; from a whole second on in a leap second. -/
  nano : Nat
  /-- The four name a time. -/
  isTime : isTime hour minute second nano = true
  deriving DecidableEq

namespace TimeOfDay

/-- The time with these four numbers, if there is one. -/
def make? (hour minute second nano : Nat) : Option TimeOfDay :=
  if h : Calendar.isTime hour minute second nano = true then some ⟨hour, minute, second, nano, h⟩
  else none

/-- The time with a second from 0 to 60, of which 60 is a leap second. -/
def ofClock? (hour minute second nano : Nat) : Option TimeOfDay :=
  if second = 60 then make? hour minute 59 (nano + 1000000000) else make? hour minute second nano

/-- The first time of a day. -/
def midnight : TimeOfDay := ⟨0, 0, 0, 0, rfl⟩

/-- The order of two times. -/
def order (a b : TimeOfDay) : Ordering :=
  (compare a.hour b.hour).then ((compare a.minute b.minute).then
    ((compare a.second b.second).then (compare a.nano b.nano)))

/-- A fraction of a second in as many groups of three digits as it needs. -/
def fractionChars (nano : Nat) : List Char :=
  if nano = 0 then []
  else if nano % 1000000 = 0 then '.' :: padDigits 3 (nano / 1000000)
  else if nano % 1000 = 0 then '.' :: padDigits 6 (nano / 1000)
  else '.' :: padDigits 9 nano

/-- Hour, minute and second between colons; a leap second is second 60. -/
def clockChars (t : TimeOfDay) : List Char :=
  padDigits 2 t.hour ++ ':' :: padDigits 2 t.minute ++ ':' ::
    padDigits 2 (t.second + t.nano / 1000000000)

/-- The clock and the fraction. -/
def chars (t : TimeOfDay) : List Char := t.clockChars ++ fractionChars (t.nano % 1000000000)

/-- The text of a time. -/
def text (t : TimeOfDay) : String := String.ofList t.chars

end TimeOfDay

/-- A time on a day. -/
structure DateTime where
  /-- The day. -/
  date : Date
  /-- The time of day. -/
  time : TimeOfDay
  deriving DecidableEq

namespace DateTime

/-- The order of two times on days. -/
def order (a b : DateTime) : Ordering := (a.date.order b.date).then (a.time.order b.time)

/-- The date and the time with a character between them. -/
def charsWith (separator : Char) (t : DateTime) : List Char :=
  t.date.chars ++ separator :: t.time.chars

/-- The text with a `T` between date and time. -/
def isoText (t : DateTime) : String := String.ofList (t.charsWith 'T')

/-- The text with a space between date and time. -/
def text (t : DateTime) : String := String.ofList (t.charsWith ' ')

/-- The text of a time in UTC, as an instant. -/
def instantText (t : DateTime) : String := String.ofList (t.charsWith 'T' ++ ['Z'])

/-- The date and the whole seconds, with a space between them. -/
def secondsText (t : DateTime) : String :=
  String.ofList (t.date.chars ++ ' ' :: t.time.clockChars)

/-- The time some minutes earlier, or later when negative, by less than a day. Seconds do not
change, and a leap second stays one. -/
def subMinutes? (t : DateTime) (minutes : Int) : Option DateTime := do
  let total : Int := t.time.hour * 60 + t.time.minute - minutes
  let inDay := (total % 1440).toNat
  let date ←
    if total < 0 then t.date.previous?
    else if total < 1440 then some t.date
    else t.date.next?
  let time ← TimeOfDay.make? (inDay / 60) (inDay % 60) t.time.second t.time.nano
  some ⟨date, time⟩

/-- The time some seconds after midnight of a day. -/
def afterMidnight? (date : Date) (seconds : Nat) : Option DateTime := do
  let date ← date.after? (seconds / 86400)
  let time ← TimeOfDay.make? (seconds / 3600 % 24) (seconds / 60 % 60) (seconds % 60) 0
  some ⟨date, time⟩

end DateTime

end Filterbook.Calendar

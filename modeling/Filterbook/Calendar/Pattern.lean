import Filterbook.Calendar.Time
import Filterbook.Text.Blank

/-!
# Reading dates and times

A pattern is a list of items read one after another; a text fits it when all of it is read. The
numbers found are collected in a `Reading`, which is then a date, a time, or a time with a zone.
-/

namespace Filterbook.Calendar

open Filterbook.Number Filterbook.Text

/-- One item of a pattern. -/
inductive Item where
  /-- A year: up to four digits, or a sign and any number of digits. -/
  | year
  /-- A month of one or two digits. -/
  | month
  /-- A day of one or two digits. -/
  | day
  /-- An hour of one or two digits. -/
  | hour
  /-- A minute of one or two digits. -/
  | minute
  /-- A second of one or two digits, 60 being a leap second. -/
  | second
  /-- A point and a fraction of a second, or nothing. -/
  | fraction
  /-- A zone: a sign, two digits of hours and two of minutes. -/
  | zone
  /-- Any number of blanks. -/
  | blanks
  /-- This character. -/
  | mark (c : Char)
  deriving DecidableEq

/-- The numbers found so far. -/
structure Reading where
  /-- The year. -/
  year : Int := 0
  /-- The month. -/
  month : Nat := 0
  /-- The day of the month. -/
  day : Nat := 0
  /-- The hour. -/
  hour : Nat := 0
  /-- The minute. -/
  minute : Nat := 0
  /-- The second, up to 60. -/
  second : Nat := 0
  /-- The nanoseconds. -/
  nano : Nat := 0
  /-- The minutes by which local time is ahead of UTC. -/
  zone : Int := 0

/-- Between `least` and `most` digits from the front, as many as there are. -/
def takeNumber? (least most : Nat) (cs : List Char) : Option (Nat × List Char) :=
  let digits := (cs.take most).takeWhile isDigit
  if digits.length < least then none else some (digitsValue digits, cs.drop digits.length)

/-- A number of one digit or more that lies in a range. -/
def takeRanged? (low high : Nat) (cs : List Char) : Option (Nat × List Char) := do
  let (n, rest) ← takeNumber? 1 2 cs
  if low ≤ n && n ≤ high then some (n, rest) else none

/-- A year with or without a sign. -/
def takeYear? : List Char → Option (Int × List Char)
  | '-' :: cs => (takeNumber? 1 cs.length cs).map fun (n, rest) => (-(n : Int), rest)
  | '+' :: cs => (takeNumber? 1 cs.length cs).map fun (n, rest) => ((n : Int), rest)
  | cs => (takeNumber? 1 4 cs).map fun (n, rest) => ((n : Int), rest)

/-- The digits of a fraction as nanoseconds; digits after the ninth are passed over. -/
def takeFraction? (cs : List Char) : Option (Nat × List Char) :=
  let digits := cs.takeWhile isDigit
  let kept := digits.take 9
  if digits.isEmpty then none
  else some (digitsValue kept * tenTo (9 - kept.length), cs.dropWhile isDigit)

/-- A sign, two digits, what `between` takes away, and two digits up to 59: minutes ahead of UTC. The
minus sign proper is read like a hyphen. -/
def takeOffset? (between : List Char → Option (List Char)) :
    List Char → Option (Int × List Char)
  | [] => none
  | sign :: cs => do
    let negative ←
      if sign = '+' then some false
      else if sign = '-' || sign = '−' then some true
      else none
    let (hours, rest) ← takeNumber? 2 2 cs
    let (minutes, rest) ← takeNumber? 2 2 (← between rest)
    if minutes < 60 then
      let total : Int := hours * 60 + minutes
      some (if negative then -total else total, rest)
    else none

/-- Colons and blanks in any number. -/
def dropColons (cs : List Char) : List Char := cs.dropWhile fun c => c = ':' || isBlank c

/-- One character taken from the front. -/
def takeMark? (c : Char) : List Char → Option (List Char)
  | [] => none
  | d :: cs => if c = d then some cs else none

/-- One item read from the front. Numbers may have blanks before them. -/
def Item.read? (item : Item) (r : Reading) (cs : List Char) : Option (Reading × List Char) :=
  match item with
  | .year => (takeYear? (dropBlanks cs)).map fun (n, rest) => ({ r with year := n }, rest)
  | .month => (takeRanged? 1 12 (dropBlanks cs)).map fun (n, rest) => ({ r with month := n }, rest)
  | .day => (takeRanged? 1 31 (dropBlanks cs)).map fun (n, rest) => ({ r with day := n }, rest)
  | .hour => (takeRanged? 0 23 (dropBlanks cs)).map fun (n, rest) => ({ r with hour := n }, rest)
  | .minute => (takeRanged? 0 59 (dropBlanks cs)).map fun (n, rest) => ({ r with minute := n }, rest)
  | .second => (takeRanged? 0 60 (dropBlanks cs)).map fun (n, rest) => ({ r with second := n }, rest)
  | .fraction =>
    match cs with
    | '.' :: cs => (takeFraction? cs).map fun (n, rest) => ({ r with nano := n }, rest)
    | cs => some (r, cs)
  | .zone =>
    (takeOffset? (some <| dropColons ·) (dropBlanks cs)).map fun (n, rest) =>
      ({ r with zone := n }, rest)
  | .blanks => some (r, dropBlanks cs)
  | .mark c => (takeMark? c cs).map fun rest => (r, rest)

/-- The items read one after another. -/
def readItems? : List Item → Reading → List Char → Option (Reading × List Char)
  | [], r, cs => some (r, cs)
  | item :: items, r, cs => (item.read? r cs).bind fun (r, rest) => readItems? items r rest

/-- The reading of a text that fits a pattern as a whole. -/
def fit? (items : List Item) (cs : List Char) : Option Reading :=
  match readItems? items {} cs with
  | some (r, []) => some r
  | _ => none

/-- The day of a reading. -/
def Reading.date? (r : Reading) : Option Date := Date.make? r.year r.month r.day

/-- The time of a reading. -/
def Reading.time? (r : Reading) : Option TimeOfDay :=
  TimeOfDay.ofClock? r.hour r.minute r.second r.nano

/-- The time on the day of a reading, as written. -/
def Reading.local? (r : Reading) : Option DateTime := do
  some ⟨← r.date?, ← r.time?⟩

/-- The time of a reading in UTC. A zone is less than a day ahead or behind. -/
def Reading.utc? (r : Reading) : Option DateTime := do
  let t ← r.local?
  if r.zone.natAbs < 1440 then t.subMinutes? r.zone else none

/-- Year, month and day. -/
def dateItems : List Item := [.year, .mark '-', .month, .mark '-', .day]

/-- Hour and minute. -/
def minuteItems : List Item := [.hour, .mark ':', .minute]

/-- Hour, minute and second with a fraction. -/
def secondItems : List Item := minuteItems ++ [.mark ':', .second, .fraction]

/-- The character between the day and the time of an instant. -/
def takeSeparator? : List Char → Option (List Char)
  | c :: cs => if c = 'T' || c = 't' || c = ' ' then some cs else none
  | [] => none

/-- A point and a fraction, or nothing, which is no fraction. -/
def takePointed? : List Char → Option (Nat × List Char)
  | '.' :: cs => takeFraction? cs
  | cs => some (0, cs)

/-- The zone that is all there is: `Z`, or an offset with a colon. -/
def exactZone? : List Char → Option Int
  | ['Z'] => some 0
  | ['z'] => some 0
  | cs => match takeOffset? (takeMark? ':') cs with
    | some (zone, []) => some zone
    | _ => none

/-- The exact form of an instant: every number at full width, one separator, and a zone. -/
def readStrict? (cs : List Char) : Option Reading := do
  let (year, cs) ← takeNumber? 4 4 cs
  let (month, cs) ← takeNumber? 2 2 (← takeMark? '-' cs)
  let (day, cs) ← takeNumber? 2 2 (← takeMark? '-' cs)
  let (hour, cs) ← takeNumber? 2 2 (← takeSeparator? cs)
  let (minute, cs) ← takeNumber? 2 2 (← takeMark? ':' cs)
  let (second, cs) ← takeNumber? 2 2 (← takeMark? ':' cs)
  let (nano, cs) ← takePointed? cs
  let zone ← exactZone? cs
  some { year, month, day, hour, minute, second, nano, zone }

/-- The zone of an instant in its relaxed form: `UTC` or `Z` in any case, or an offset. -/
def takeInstantZone? (cs : List Char) : Option (Int × List Char) :=
  if (cs.take 3).map Char.toLower = ['u', 't', 'c'] then some (0, cs.drop 3)
  else match cs with
    | 'Z' :: cs => some (0, cs)
    | 'z' :: cs => some (0, cs)
    | cs => takeOffset? (some <| dropColons ·) cs

/-- The relaxed form of an instant: blanks may stand before each number and mark, and after. -/
def readInstant? (s : String) : Option DateTime := do
  let (r, cs) ← readItems? [.year, .blanks, .mark '-', .month, .blanks, .mark '-', .day] {} s.toList
  let (r, cs) ← readItems?
    [.hour, .blanks, .mark ':', .minute, .blanks, .mark ':', .second, .fraction, .blanks] r
    (← takeSeparator? cs)
  let (zone, cs) ← takeInstantZone? cs
  if (dropBlanks cs).isEmpty then Reading.utc? { r with zone := zone } else none

end Filterbook.Calendar

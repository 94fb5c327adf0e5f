import Filterbook.Number.Digits

/-!
# Decimal numbers

Exact decimal numbers with a sign, at most 96 bits and up to 28 places. Reading keeps the places as
written and rounds a half away from zero where the digits run out; printing writes the places that a
number has. A zero may have a sign, which is written and does not count in the order.
-/

namespace Filterbook.Number

/-- `digits / 10 ^ scale` with a sign. -/
structure Decimal where
  /-- Whether the sign is a minus. -/
  negative : Bool
  /-- All digits, those after the point included. -/
  digits : Nat
  /-- How many of the digits stand after the point. -/
  scale : Nat
  /-- The digits fit in 96 bits. -/
  small : digits < twoTo 96
  /-- At most 28 places. -/
  scale_le : scale ≤ 28
  deriving DecidableEq

namespace Decimal

/-- The number of a sign, digits and a scale, when these are within their limits. -/
def make? (negative : Bool) (digits scale : Nat) : Option Decimal :=
  if small : digits < twoTo 96 then
    if scale_le : scale ≤ 28 then some ⟨negative, digits, scale, small, scale_le⟩ else none
  else none

/-- All digits, with the sign. -/
def coefficient (d : Decimal) : Int := if d.negative then -(d.digits : Int) else d.digits

/-- The number of digits read so far, and where the point stands. -/
structure Reading where
  /-- The digits. -/
  digits : Nat
  /-- The digits after the point, or nothing before a point was met. -/
  places : Option Nat
  /-- Whether a digit was met. -/
  started : Bool

namespace Reading

/-- The places of a reading; none before the point. -/
def scale (r : Reading) : Nat := r.places.getD 0

/-- There is no room for another place. -/
def isFull (r : Reading) : Bool := r.places.any (28 ≤ ·)

/-- The digits before the last one come close to the limit of 64 bits. -/
def isWide (r : Reading) : Bool := 1844674407370954906 ≤ r.digits / 10

/-- What a reading is worth with a sign, once it holds a digit. A zero has no sign. -/
def finish (negative : Bool) (r : Reading) : Option Decimal :=
  if r.started then make? (negative && r.digits ≠ 0) r.digits r.scale else none

/-- A reading rounded by the digit that it has no room for. A carry past the last bit drops one
place. -/
def round (negative : Bool) (r : Reading) (digit : Nat) : Option Decimal :=
  if digit < 5 then r.finish negative
  else if r.digits + 1 < twoTo 96 then { r with digits := r.digits + 1 }.finish negative
  else if r.scale = 0 then none
  else { r with digits := (r.digits + 5) / 10, places := some (r.scale - 1) }.finish negative

end Reading

/-- A character that may follow the digit that decides the rounding. -/
def isSpare (c : Char) : Bool := isDigit c || c = '_'

/-- The number of the characters that follow a reading. Digits may be grouped with underscores after
the first. Once 28 places are full, or a digit after the point no longer fits, the next digit
decides the rounding and only digits and underscores may follow. An underscore in front of the
deciding digit is skipped in a wide reading, and stands for a zero in any other. -/
def readFrom (negative : Bool) (r : Reading) : List Char → Option Decimal
  | [] => r.finish negative
  | c :: cs =>
    if c = '_' && r.started && (!r.isFull || r.isWide) then readFrom negative r cs
    else if r.isFull then
      if isSpare c && cs.all isSpare then r.round negative (if isDigit c then digitValue c else 0)
      else none
    else if isDigit c then
      let digits := 10 * r.digits + digitValue c
      if digits < twoTo 96 then readFrom negative ⟨digits, r.places.map (· + 1), true⟩ cs
      else if r.places.isSome && cs.all isSpare then r.round negative (digitValue c)
      else none
    else if c = '.' && r.places.isNone then readFrom negative { r with places := some 0 } cs
    else none

/-- A number without an exponent: an optional sign, digits and at most one point. -/
def readPlain? (cs : List Char) : Option Decimal :=
  let (negative, digits) := takeSign cs
  readFrom negative ⟨0, none, false⟩ digits

/-- The whole number of an exponent: an optional plus sign and digits. -/
def readPower? : List Char → Option Nat
  | '+' :: cs => readDigits? cs
  | cs => readDigits? cs

/-- Digits without the last `places`, a half rounded up. -/
def dropPlaces (digits : Nat) : (places : Nat) → Nat
  | 0 => digits
  | places + 1 => (digits / tenTo places + 5) / 10

/-- A number times a power of ten. A negative power adds places, and those past the last are rounded
away; a positive one takes places away, and what is left of it multiplies a whole number. -/
def shift? (d : Decimal) (power : Int) : Option Decimal :=
  let places := d.scale - power
  if power < -28 || 28 < power then none
  else if 28 < places then make? d.negative (dropPlaces d.digits (places - 28).toNat) 28
  else if 0 ≤ places then make? d.negative d.digits places.toNat
  else make? d.negative (d.digits * tenTo (-places).toNat) 0

/-- A number with an exponent after `e` or `E`. -/
def readScientific? (cs : List Char) : Option Decimal :=
  let isMark (c : Char) : Bool := c = 'e' || c = 'E'
  let base := cs.takeWhile fun c => !isMark c
  match cs.dropWhile fun c => !isMark c with
  | [] => none
  | _ :: exponent => do
    let d ← readPlain? base
    match exponent with
    | '-' :: digits => d.shift? (-(← readPower? digits : Nat))
    | digits => d.shift? (← readPower? digits : Nat)

/-- The number that a text writes, with or without an exponent. -/
def read? (cs : List Char) : Option Decimal :=
  (readPlain? cs).orElse fun _ => readScientific? cs

/-- The sign and the digits with their places. -/
def chars (d : Decimal) : List Char :=
  let digits := padDigits (d.scale + 1) d.digits
  let whole := digits.take (digits.length - d.scale)
  let fraction := digits.drop (digits.length - d.scale)
  (if d.negative then ['-'] else []) ++ whole ++
    (if d.scale = 0 then [] else '.' :: fraction)

/-- The text of a number, with all its places. -/
def text (d : Decimal) : String := String.ofList d.chars

/-- The order of two numbers by value, whatever their places. -/
def order (a b : Decimal) : Ordering :=
  compare (a.coefficient * tenTo b.scale) (b.coefficient * tenTo a.scale)

end Decimal

/-- A reader of decimal numbers. It comes with the numbers that are used, and may leave out those that are
written with an exponent. -/
class DecimalReader where
  /-- The number that a text writes. -/
  read? : List Char → Option Decimal

/-- The reader that is used takes numbers with or without an exponent, so that the text `5e0` is read like
`5.00` wherever it stands. -/
instance : DecimalReader := ⟨Decimal.read?⟩

namespace Decimal

/-- The number that a typed text writes. What the reader leaves out is tried again as one with an
exponent. -/
def readTyped? [DecimalReader] (cs : List Char) : Option Decimal :=
  (DecimalReader.read? cs).orElse fun _ => readScientific? cs

/-- What is read at first is not tried again. -/
theorem readTyped?_of_isSome [DecimalReader] {cs : List Char}
    (h : (DecimalReader.read? cs).isSome = true) : readTyped? cs = DecimalReader.read? cs := by
  obtain ⟨d, hd⟩ := Option.isSome_iff_exists.mp h
  rw [readTyped?, hd, Option.orElse_some]

/-- A reader of exponents reads everything at first. -/
theorem readTyped?_eq_read? (cs : List Char) : readTyped? cs = read? cs := by
  show (read? cs).orElse (fun _ => readScientific? cs) = read? cs
  rw [read?]
  cases readPlain? cs <;> cases readScientific? cs <;> rfl

end Decimal

end Filterbook.Number

import Filterbook.Number.Digits
import Filterbook.Number.Binary64

/-!
# Shortest decimal text

The fewest decimal digits that read back as a given binary number. The numbers that round to it form
an interval around it; on the grid of the next power of ten, then of one digit, of two, and so on, only
the two neighbours of the number need to be looked at. A layout record then says how the digits are
written.
-/

namespace Filterbook.Number

/-- Which way to go when two shortest forms are equally near. -/
inductive Tie where
  /-- To the even last digit. -/
  | toEven
  /-- To the larger magnitude. -/
  | up
  deriving DecidableEq, Repr

/-- `coefficient * 10 ^ exponent`. -/
structure DecimalDigits where
  /-- The digits as one number. -/
  coefficient : Nat
  /-- The power of ten of the last digit. -/
  exponent : Int
  deriving DecidableEq, Repr

/-- A positive fraction with the ends of the interval of fractions that round to it, all over one
denominator. -/
structure Neighbourhood where
  /-- The lower end. -/
  low : Nat
  /-- The number itself. -/
  value : Nat
  /-- The upper end. -/
  high : Nat
  /-- The common denominator. -/
  denominator : Nat
  /-- Whether the ends belong to the interval. -/
  closed : Bool

/-- The interval of numbers that round to `significand * 2 ^ exponent`. Below a power of two the
numbers lie twice as close. -/
def Neighbourhood.of (significand : Nat) (exponent : Int) : Neighbourhood :=
  let below := if significand = twoTo 52 && exponent > -1074 then 1 else 2
  let shift := exponent - 2
  let up := if shift < 0 then 1 else twoTo shift.natAbs
  let down := if shift < 0 then twoTo shift.natAbs else 1
  ⟨(4 * significand - below) * up, 4 * significand * up, (4 * significand + 2) * up, down,
    significand % 2 = 0⟩

/-- The point `count` of a grid lies in the interval. -/
def Neighbourhood.holds (n : Neighbourhood) (count : Nat) : Bool :=
  let point := count * n.denominator
  if n.closed then n.low ≤ point && point ≤ n.high else n.low < point && point < n.high

/-- The neighbourhood measured in units of `10 ^ exponent`. -/
def Neighbourhood.inUnits (n : Neighbourhood) (exponent : Int) : Neighbourhood :=
  let unit := tenTo exponent.natAbs
  if exponent < 0 then { n with low := n.low * unit, value := n.value * unit, high := n.high * unit }
  else { n with denominator := n.denominator * unit }

/-- The nearest multiple of the unit that lies in the interval, of the two around the number. -/
def Neighbourhood.hit? (n : Neighbourhood) (tie : Tie) : Option Nat :=
  let below := n.value / n.denominator
  let rest := n.value % n.denominator
  match n.holds below, n.holds (below + 1) with
  | false, false => none
  | true, false => some below
  | false, true => some (below + 1)
  | true, true =>
    if 2 * rest < n.denominator then some below
    else if 2 * rest > n.denominator then some (below + 1)
    else match tie with
      | .toEven => some (below + below % 2)
      | .up => some (below + 1)

/-- The exponent of the leading decimal digit of a positive fraction. -/
def leadingExponent (numerator denominator : Nat) : Int :=
  if denominator ≤ numerator then ((natDigits (numerator / denominator)).length : Int) - 1
  else -((natDigits ((denominator - 1) / numerator)).length : Int)

/-- The shortest digits of `significand * 2 ^ exponent`; seventeen always suffice. -/
def shortestDigits (tie : Tie) (significand : Nat) (exponent : Int) : DecimalDigits :=
  if significand = 0 then ⟨0, 0⟩
  else
    let n := Neighbourhood.of significand exponent
    let leading := leadingExponent n.value n.denominator
    let hit? (places : Nat) : Option DecimalDigits :=
      let unit := leading + 1 - places
      ((n.inUnits unit).hit? tie).map (⟨·, unit⟩)
    ((List.range 18).findSome? hit?).getD ⟨0, 0⟩

/-- How a floating-point number is written. -/
structure FloatLayout where
  /-- The leading exponents that are written without an exponent. -/
  positional : Int → Bool
  /-- Whether a whole number keeps a fraction of one zero. -/
  pointZero : Bool
  /-- Whether a positive exponent has a plus sign. -/
  plusExponent : Bool
  /-- The choice between two equally near forms. -/
  tie : Tie
  /-- The text of no number. -/
  nanText : String
  /-- The text of an infinity, after its sign. -/
  infiniteText : String

/-- Digits written with a decimal point and as many zeros as they need. -/
def positionalText (pointZero : Bool) (digits : List Char) (exponent : Int) : List Char :=
  let places := exponent.natAbs
  if 0 ≤ exponent then
    digits ++ List.replicate places '0' ++ (if pointZero then ['.', '0'] else [])
  else if places < digits.length then
    digits.take (digits.length - places) ++ '.' :: digits.drop (digits.length - places)
  else '0' :: '.' :: List.replicate (places - digits.length) '0' ++ digits

/-- Digits written with the point after the first of them and an exponent. -/
def scientificText (plusExponent : Bool) (digits : List Char) (leading : Int) : List Char :=
  let mantissa := match digits with
    | [] => ['0']
    | [d] => [d]
    | d :: ds => d :: '.' :: ds
  mantissa ++ 'e' :: (if plusExponent && 0 ≤ leading then ['+'] else []) ++ intDigits leading

/-- The text of a number in a layout. -/
def FloatLayout.chars (layout : FloatLayout) : Binary64 → List Char
  | .nan => layout.nanText.toList
  | .infinite negative => (if negative then ['-'] else []) ++ layout.infiniteText.toList
  | .finite negative significand exponent =>
    let shortest := shortestDigits layout.tie significand exponent
    let digits := natDigits shortest.coefficient
    let leading := shortest.exponent + digits.length - 1
    (if negative then ['-'] else []) ++
      if layout.positional leading then positionalText layout.pointZero digits shortest.exponent
      else scientificText layout.plusExponent digits leading

/-- The text of a number in a layout. -/
def FloatLayout.text (layout : FloatLayout) (x : Binary64) : String :=
  String.ofList (layout.chars x)

end Filterbook.Number

import Filterbook.Json.Basic
import Filterbook.Number.Shortest

/-!
# Numbers in Json text

An integer that fits in 64 bits is read as it stands. Every other number is read approximately: its
digits are kept as long as they fit in 64 bits, and the number nearest to them is multiplied or
divided once by the nearest power of ten. A number too large is no number; one too small is zero.
-/

namespace Filterbook.Json

open Filterbook.Number

/-- The parts of a number in text. -/
structure NumberParts where
  /-- Whether a hyphen comes first. -/
  negative : Bool
  /-- The digits before the point. -/
  whole : List Char
  /-- The digits after the point, if there is one. -/
  fraction : Option (List Char)
  /-- The exponent, if there is one: whether it is negative, and its digits. -/
  exponent : Option (Bool × List Char)

/-- The exponent at the end of a number. -/
def splitExponent? : List Char → Option (Option (Bool × List Char))
  | [] => some none
  | c :: cs =>
    let (negative, digits) := takeSign cs
    if (c = 'e' || c = 'E') && digits ≠ [] && digits.all isDigit then
      some (some (negative, digits))
    else none

/-- A number cut into its parts. There is no zero in front of other digits, and a point has digits on
both sides. -/
def splitNumber? (cs : List Char) : Option NumberParts := do
  let (negative, cs) := match cs with
    | '-' :: cs => (true, cs)
    | cs => (false, cs)
  let whole := cs.takeWhile isDigit
  let rest := cs.dropWhile isDigit
  if whole.isEmpty || (whole.head? == some '0' && whole.length ≠ 1) then none
  else match rest with
    | '.' :: rest =>
      let fraction := rest.takeWhile isDigit
      if fraction.isEmpty then none
      else some ⟨negative, whole, some fraction, ← splitExponent? (rest.dropWhile isDigit)⟩
    | rest => some ⟨negative, whole, none, ← splitExponent? rest⟩

/-- Digits added to a number as long as it fits in 64 bits, and the digits left over. -/
def fillWord : Nat → List Char → Nat × List Char
  | n, [] => (n, [])
  | n, c :: cs =>
    let next := 10 * n + digitValue c
    if next < twoTo 64 then fillWord next cs else (n, c :: cs)

/-- The number nearest to a power of ten. -/
def nearestTenTo (power : Nat) : Binary64 := .ofRatio false (tenTo power) 1

/-- A number divided by powers of ten until `power` of them are used up. -/
def divideByTens (x : Binary64) (power : Nat) : Binary64 :=
  if x.isZero then x
  else if power ≤ 308 then x.div (nearestTenTo power)
  else divideByTens (x.div (nearestTenTo 308)) (power - 308)
termination_by power

/-- A number times a power of ten, unless it is too large. -/
def scaleByTens? (x : Binary64) (power : Int) : Option Binary64 :=
  if power < 0 then some (divideByTens x power.natAbs)
  else if power ≤ 308 then
    let y := x.mul (nearestTenTo power.natAbs)
    if y.isFinite then some y else none
  else if x.isZero then some x
  else none

/-- The value of a number's parts. -/
def NumberParts.value? (p : NumberParts) : Option JsonNumber :=
  let (significand, surplus) := fillWord 0 p.whole
  match p.fraction, p.exponent, surplus with
  | none, none, [] =>
    let n : Int := if p.negative then -(significand : Int) else significand
    if p.negative && (significand = 0 || significand > twoTo 63) then
      some (.float (.ofRatio true significand 1))
    else some (.int n)
  | fraction, exponent, surplus =>
    let digits := fraction.getD []
    let (significand, left) := fillWord significand digits
    let start : Int := surplus.length - (digits.length - left.length : Nat)
    let power := match exponent with
      | none => start
      | some (negative, digits) =>
        let n : Int := digitsValue digits
        if negative then start - n else start + n
    let magnitude := scaleByTens? (.ofRatio false significand 1) power
    magnitude.map fun x => .float (x.withSign p.negative)

/-- The number that a text writes. -/
def readNumber? (cs : List Char) : Option JsonNumber := (splitNumber? cs).bind NumberParts.value?

/-- A number has the fewest digits that read back and is never taken for an integer; far from one it
has an exponent. -/
def floatLayout : FloatLayout where
  positional leading := -5 ≤ leading && leading ≤ 15
  pointZero := true
  plusExponent := true
  tie := .toEven
  nanText := "null"
  infiniteText := "null"

end Filterbook.Json

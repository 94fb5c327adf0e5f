import Filterbook.Number.Digits
import Filterbook.Number.Binary64
import Filterbook.Number.Shortest

/-!
# Reading floating-point text

A number is a sign, digits with at most one point among them and an optional exponent; the names of
the infinities and of no number are read in any case. The value is the nearest number.
-/

namespace Filterbook.Number

/-- The number nearest to `coefficient * 10 ^ exponent`. A number whose leading digit is out of reach
of every finite number is decided without computing the power. -/
def nearestDecimal (negative : Bool) (coefficient : Nat) (exponent : Int) : Binary64 :=
  let leading := exponent + (natDigits coefficient).length
  if coefficient = 0 then .finite negative 0 (-1074)
  else if leading > 400 then .infinite negative
  else if leading < -400 then .finite negative 0 (-1074)
  else if exponent < 0 then .ofRatio negative coefficient (tenTo exponent.natAbs)
  else .ofRatio negative (coefficient * tenTo exponent.natAbs) 1

/-- An exponent: the mark, an optional sign and one or more digits. Nothing at all means zero. -/
def readExponent? : List Char → Option Int
  | [] => some 0
  | c :: cs => if c = 'e' || c = 'E' then readInt? cs else none

/-- An unsigned number: digits, an optional point with digits, and an optional exponent. One digit is
needed on either side of the point. -/
def readMagnitude? (negative : Bool) (cs : List Char) : Option Binary64 :=
  let whole := cs.takeWhile isDigit
  let rest := cs.dropWhile isDigit
  let (fraction, rest) := match rest with
    | '.' :: rest => (rest.takeWhile isDigit, rest.dropWhile isDigit)
    | rest => ([], rest)
  if whole.isEmpty && fraction.isEmpty then none
  else (readExponent? rest).map fun exponent =>
    nearestDecimal negative (digitsValue (whole ++ fraction)) (exponent - fraction.length)

/-- The floating-point number that a text writes. -/
def readFloat? (s : String) : Option Binary64 :=
  let (negative, cs) := takeSign s.toList
  let name := String.ofList (cs.map Char.toLower)
  if name = "inf" || name = "infinity" then some (.infinite negative)
  else if name = "nan" then some .nan
  else readMagnitude? negative cs

/-- A value shown to a person: never an exponent, no fraction on a whole number. -/
def plainFloat : FloatLayout where
  positional _ := true
  pointZero := false
  plusExponent := false
  tie := .up
  nanText := "NaN"
  infiniteText := "inf"

end Filterbook.Number

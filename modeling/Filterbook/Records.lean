import Filterbook.Filter.Matching
import Filterbook.Json.Printer
import Filterbook.QueryError

/-!
# Records

The rows of each model, in the order in which they came, and the selection of rows by a filter. A
row's member `id` identifies its record, and a record is selected once; rows without one are all
different.
-/

namespace Filterbook

/-- The rows of models. -/
structure Records where
  /-- The rows of a model. -/
  rows : String → List Json := fun _ => []

/-- What identifies the record of a row. -/
def recordKey? (row : Json) : Option String :=
  match row.get? "id" with
  | none => none
  | some .null => none
  | some key => some key.canonical.text

/-- The rows without those of a record already seen. -/
def firstOfRecords : (seen : List String) → List Json → List Json
  | _, [] => []
  | seen, row :: rows =>
    match recordKey? row with
    | none => row :: firstOfRecords seen rows
    | some key =>
      if seen.contains key then firstOfRecords seen rows
      else row :: firstOfRecords (key :: seen) rows

namespace Records

/-- The records with more rows of a model. -/
def extend (r : Records) (model : String) (rows : List Json) : Records :=
  ⟨fun m => if m = model then r.rows m ++ rows else r.rows m⟩

/-- The number of rows of a model. -/
def count (r : Records) (model : String) : Nat := (r.rows model).length

/-- The rows of a model that a filter selects. Every pattern of the filter must be well formed. -/
def select (r : Records) (model : String) (f : Filter) : Except QueryError (List Json) :=
  match f.badPattern? with
  | some path => .error { QueryError.store (.badPattern path) with model? := some model }
  | none => .ok (firstOfRecords [] ((r.rows model).filter fun row => f.holds row))

end Records

end Filterbook

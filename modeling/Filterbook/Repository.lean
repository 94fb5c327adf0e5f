import Filterbook.Access.Scope
import Filterbook.ListingOrder
import Filterbook.QueryError

/-!
# The repository of saved filters

Filters by identity, in the order in which they came. A filter that is replaced keeps its place, and
one that comes back after it was removed comes last.
-/

namespace Filterbook

/-- What to list, and in what order. -/
structure ListQuery where
  /-- The filters that may be shown. -/
  scope : Scope
  /-- The model wanted, if only one is. -/
  target? : Option String := none
  /-- The owner wanted, if only one is. -/
  owner? : Option UserId := none
  /-- The order. -/
  order : ListingOrder := .standard

/-- A filter is one that a query lists. -/
def ListQuery.admits (q : ListQuery) (f : SavedFilter) : Bool :=
  q.scope.contains f && q.target?.all (· == f.target) && q.owner?.all (· == f.owner)

/-- Saved filters by identity. -/
structure Repository where
  /-- The filters. -/
  filters : Roster SavedFilter SavedFilter.id := .empty

namespace Repository

/-- No filters. -/
def empty : Repository := {}

/-- The number of filters. -/
def size (r : Repository) : Nat := r.filters.size

/-- The filter with an identity. -/
def get? (r : Repository) (id : Uuid) : Option SavedFilter := r.filters.get? id

/-- The repository without a filter. -/
def erase (r : Repository) (id : Uuid) : Repository := ⟨r.filters.erase id⟩

/-- The repository with one more filter. Its identity must be new. -/
def add (r : Repository) (f : SavedFilter) : Except QueryError Repository :=
  if r.filters.contains f.id then
    .error (.internal ("filter " ++ f.id.text ++ " already exists"))
  else .ok ⟨r.filters.insert f⟩

/-- The repository with another filter in the place of the one with its identity. -/
def replace (r : Repository) (f : SavedFilter) : Except QueryError Repository :=
  if r.filters.contains f.id then .ok ⟨r.filters.insert f⟩ else .error (.notFound filterResource)

/-- The filter with an identity, if a query lists it. -/
def find? (r : Repository) (q : ListQuery) (id : Uuid) : Option SavedFilter :=
  (r.get? id).filter q.admits

/-- The filters that a query lists, in its order. -/
def list (r : Repository) (q : ListQuery) : List SavedFilter :=
  q.order.sort (r.filters.entries.filter q.admits)

end Repository

end Filterbook

import Filterbook.FieldData
import Filterbook.Filter.Compilation
import Filterbook.Records
import Filterbook.Service.Call

/-!
# The service

Authoring, listing and applying saved filters on behalf of users. Each operation is a call on the
storage, made with the grants of its moment. Whoever may not do something with a filter is told that
there is no such filter.
-/

namespace Filterbook

/-- What a user submits to make or change a filter. -/
structure FilterDraft where
  /-- The name, if there is one. -/
  name? : Option String := none
  /-- A description, if there is one. -/
  description? : Option String := none
  /-- The clauses, and those to be dropped. -/
  clauses : List ClauseRequest := []
  /-- Whether the filter is deleted after its first use. -/
  ephemeral : Bool := false

/-- The draft that a Json value writes. -/
def FilterDraft.ofJson? (j : Json) : Option FilterDraft := do
  let ms ← Json.Shape.members? ⟨["name", "description", "clauses", "ephemeral"], 0, false⟩ j
  some {
    name? := ← Json.optional ms "name" Json.text?
    description? := ← Json.optional ms "description" Json.text?
    clauses := ← Json.defaulted ms "clauses" (Json.list? ClauseRequest.ofJson?) []
    ephemeral := ← Json.defaulted ms "ephemeral" Json.bool? false }

/-- What an administrator lists. -/
structure ListOptions where
  /-- The model wanted, if only one is. -/
  target? : Option String := none
  /-- Whether only the user's own filters are wanted. -/
  ownedOnly : Bool := false

/-- An entry of a menu of filters. -/
structure FilterLookup where
  /-- The filter. -/
  id : Uuid
  /-- The words shown for it. -/
  label : String

/-- What came of the application of a filter. -/
structure AppliedFilter where
  /-- The filter. -/
  filter : SavedFilter
  /-- The rows that it selects. -/
  rows : List Json
  /-- Whether the user is offered to edit it. -/
  canChange : Bool
  /-- Whether it was deleted after this use. -/
  discarded : Bool

/-- A service for saved filters. -/
structure Service where
  /-- The registry of models. -/
  registry : Registry
  /-- The operators and categories. -/
  catalog : Catalog := .standard
  /-- What decides about access. -/
  access : Access := {}
  /-- The order of listings. -/
  order : ListingOrder := .standard
  /-- The records that filters select from. -/
  records : Records := {}

namespace Service

/-- There is no such filter. -/
def noFilter : QueryError := .notFound filterResource

/-- There is no such filter for a model. -/
def noFilterFor (target : String) : QueryError := { noFilter with model? := some target }

/-- The clauses of a submission in the form in which they are stored. -/
def checkedClauses (s : Service) (target : String) (requests : List ClauseRequest) :
    Except QueryError (List Clause) :=
  match validateClauses s.registry target s.catalog requests with
  | .error errors => .error { QueryError.invalidFilter errors with model? := some target }
  | .ok checked => .ok (checked.map Checked.toClause)

/-- The new filter that a draft makes for a model, if the user may make one. -/
def newFilter (s : Service) (user : User) (target : String) (draft : FilterDraft) :
    Except QueryError NewFilter :=
  if !s.registry.contains target then .error (.unknownContentType target)
  else if !s.access.canAdd user (some target) then .error (.permissionDenied "add" target)
  else match s.checkedClauses target draft.clauses with
    | .error e => .error e
    | .ok clauses =>
      .ok ⟨draft.name?, draft.description?, target, user.id, draft.ephemeral, clauses⟩

/-- Makes a filter for a model. -/
def create (s : Service) (user : User) (target : String) (draft : FilterDraft) :
    Call (Except QueryError Uuid) :=
  match s.newFilter user target draft with
  | .error e => .done (.error e)
  | .ok f => .request (.insert f) .done

/-- A filter that was looked up, if the user may do something with it. -/
def permitted (s : Service) (user : User) (action : Action) (found? : Option SavedFilter) :
    Except QueryError SavedFilter :=
  match found? with
  | none => .error noFilter
  | some f => if s.access.can user action (some f) then .ok f else .error noFilter

/-- A filter with what a draft says in place of its editable part. -/
def edited (s : Service) (f : SavedFilter) (draft : FilterDraft) : Except QueryError SavedFilter :=
  match s.checkedClauses f.target draft.clauses with
  | .error e => .error e
  | .ok clauses =>
    .ok { f with
      name? := draft.name?, description? := draft.description?, ephemeral := draft.ephemeral,
      clauses := clauses }

/-- Replaces the editable part of a filter. -/
def update (s : Service) (user : User) (id : Uuid) (draft : FilterDraft) :
    Call (Except QueryError SavedFilter) :=
  .request (.get id) fun found? =>
    match (s.permitted user .change found?).bind (s.edited · draft) with
    | .error e => .done (.error e)
    | .ok f => .request (.update f) fun reply => .done (reply.map fun _ => f)

/-- Deletes a filter. That it is gone already is no error. -/
def delete (s : Service) (user : User) (id : Uuid) : Call (Except QueryError Unit) :=
  .request (.get id) fun found? =>
    match s.permitted user .delete found? with
    | .error e => .done (.error e)
    | .ok _ => .request (.delete id) fun reply => .done (reply.map fun _ => ())

/-- Looks a filter up. -/
def get (s : Service) (user : User) (id : Uuid) : Call (Except QueryError SavedFilter) :=
  .request (.get id) fun found? => .done (s.permitted user .view found?)

/-- Says whether the user may do something with a filter, or in principle. -/
def check (s : Service) (user : User) (action : Action) : (id? : Option Uuid) → Call Bool
  | none => .done (s.access.can user action none)
  | some id => .request (.get id) fun found? =>
    .done (found?.any fun f => s.access.can user action (some f))

/-- What the administration lists for a user: superusers see all. -/
def adminQuery (s : Service) (user : User) (options : ListOptions) : ListQuery where
  scope := if user.isSuperuser then .all else s.access.visibility user
  target? := options.target?
  owner? := if options.ownedOnly then some user.id else none
  order := s.order

/-- Lists filters for the administration. -/
def list (s : Service) (user : User) (options : ListOptions) :
    Call (Except QueryError (List SavedFilter)) :=
  if s.access.canAdminister user then
    .request (.list (s.adminQuery user options)) fun found => .done (.ok found)
  else .done (.error (.permissionDenied Action.view.word filterResource))

/-- The filters for a model that a user may see. -/
def visibleQuery (s : Service) (user : User) (target : String) : ListQuery where
  scope := s.access.visibility user
  target? := some target
  order := s.order

/-- The entry of a filter in a user's menu; filters of others are marked. -/
def lookup (user : User) (f : SavedFilter) : FilterLookup :=
  ⟨f.id, if f.isOwnedBy user.id then f.displayName else f.displayName ++ " *"⟩

/-- The menu of filters for a model. It is empty for users without access to the records. -/
def lookups (s : Service) (user : User) (target : String) : Call (List FilterLookup) :=
  if s.access.reaches user target then
    .request (.list (s.visibleQuery user target)) fun found => .done (found.map (lookup user))
  else .done []

/-- The rows that a filter selects from the records of a model. -/
def rowsOf (s : Service) (target : String) (f : SavedFilter) : Except QueryError (List Json) :=
  (f.compile s.registry s.catalog).bind (s.records.select target)

/-- What a user gets from a filter that was applied. -/
def applied (s : Service) (user : User) (f : SavedFilter) (rows : List Json) (discarded : Bool) :
    AppliedFilter :=
  ⟨f, rows, !discarded && s.access.offersChange user f, discarded⟩

/-- Applies a filter to the records of a model. An ephemeral filter is deleted after its owner
applied it; what comes of the deletion does not matter. -/
def apply (s : Service) (user : User) (target : String) (id : Uuid) :
    Call (Except QueryError AppliedFilter) :=
  if s.access.reaches user target then
    .request (.find (s.visibleQuery user target) id) fun
      | none => .done (.error (noFilterFor target))
      | some f =>
        match s.rowsOf target f with
        | .error e => .done (.error e)
        | .ok rows =>
          if f.ephemeral && f.isOwnedBy user.id then
            .request (.delete id) fun _ => .done (.ok (s.applied user f rows true))
          else .done (.ok (s.applied user f rows false))
  else .done (.error (noFilterFor target))

/-- What an editing form offers for a model. -/
def fieldData (s : Service) (target : String) : Except QueryError FieldData :=
  Filterbook.fieldData s.registry s.catalog target

end Service

end Filterbook

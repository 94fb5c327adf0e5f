import Filterbook.Repository

/-!
# Calls and storage

A call is what a service does with its storage: nothing more, or a request and what to do with each
reply to it. Requests are atomic, and between the requests of one call those of others may come; so the
steps of several calls can be taken in any order. New filters get identity and time of creation from
the storage when they are put in.
-/

namespace Filterbook

open Filterbook.Calendar

/-- A filter that is about to be stored. -/
structure NewFilter where
  /-- The name, if it has one. -/
  name? : Option String
  /-- A description, if it has one. -/
  description? : Option String
  /-- The model that it filters. -/
  target : String
  /-- The user who makes it. -/
  owner : UserId
  /-- Whether it is deleted after its first use. -/
  ephemeral : Bool
  /-- The clauses. -/
  clauses : List Clause

/-- What a filter gets when it is stored. -/
structure Stamp where
  /-- The identity. -/
  id : Uuid
  /-- The time of creation. -/
  created : DateTime

/-- The filter with its stamp. -/
def NewFilter.stamped (f : NewFilter) (stamp : Stamp) : SavedFilter :=
  { id := stamp.id, name? := f.name?, description? := f.description?, target := f.target,
    owner := f.owner, created := stamp.created, ephemeral := f.ephemeral, clauses := f.clauses }

/-- Stored filters and the stamps to come. -/
structure Storage where
  /-- The filters. -/
  repository : Repository := .empty
  /-- How many stamps are used up. -/
  issued : Nat := 0
  /-- The stamps, counted from zero. -/
  stamps : Nat → Stamp

/-- A request to the storage. -/
inductive Request where
  /-- Store a new filter. -/
  | insert (f : NewFilter)
  /-- Look a filter up. -/
  | get (id : Uuid)
  /-- Replace a filter. -/
  | update (f : SavedFilter)
  /-- Remove a filter. -/
  | delete (id : Uuid)
  /-- Look a filter up among those that a query lists. -/
  | find (q : ListQuery) (id : Uuid)
  /-- List filters. -/
  | list (q : ListQuery)

/-- What a request is answered with. -/
abbrev Request.Reply : Request → Type
  | insert _ => Except QueryError Uuid
  | get _ => Option SavedFilter
  | update _ => Except QueryError Unit
  | delete _ => Except QueryError Bool
  | find .. => Option SavedFilter
  | list _ => List SavedFilter

namespace Storage

/-- The storage with other filters. -/
def withRepository (s : Storage) (r : Repository) : Storage := { s with repository := r }

/-- The storage with a new filter, and its identity. A stamp is used up in any case. -/
def insert (s : Storage) (f : NewFilter) : Except QueryError Uuid × Storage :=
  let stamp := s.stamps s.issued
  let s := { s with issued := s.issued + 1 }
  match s.repository.add (f.stamped stamp) with
  | .ok r => (.ok stamp.id, s.withRepository r)
  | .error e => (.error e, s)

/-- The storage with a filter replaced. -/
def update (s : Storage) (f : SavedFilter) : Except QueryError Unit × Storage :=
  match s.repository.replace f with
  | .ok r => (.ok (), s.withRepository r)
  | .error e => (.error e, s)

/-- The storage without a filter, and whether it was there. -/
def delete (s : Storage) (id : Uuid) : Bool × Storage :=
  ((s.repository.get? id).isSome, s.withRepository (s.repository.erase id))

/-- The reply to a request and the storage after it. -/
def answer (s : Storage) : (q : Request) → q.Reply × Storage
  | .insert f => s.insert f
  | .get id => (s.repository.get? id, s)
  | .update f => s.update f
  | .delete id => (.ok (s.delete id).1, (s.delete id).2)
  | .find q id => (s.repository.find? q id, s)
  | .list q => (s.repository.list q, s)

end Storage

/-- What a service does with its storage until it has a result. -/
inductive Call (α : Type) where
  /-- The result. -/
  | done (result : α)
  /-- A request, and what to do with the reply. -/
  | request (q : Request) (next : q.Reply → Call α)

namespace Call

variable {α : Type}

/-- One request answered. -/
def step (answer : Storage → (q : Request) → q.Reply × Storage) (s : Storage) :
    Call α → Call α × Storage
  | done a => (done a, s)
  | request q next => (next (answer s q).1, (answer s q).2)

/-- All requests answered one after another: the result and the storage after it. -/
def runWith (answer : Storage → (q : Request) → q.Reply × Storage) :
    Call α → Storage → α × Storage
  | done a, s => (a, s)
  | request q next, s => runWith answer (next (answer s q).1) (answer s q).2

/-- The call run on a storage without anything in between. -/
def run (c : Call α) (s : Storage) : α × Storage := c.runWith Storage.answer s

/-- A call whose result is worked on. -/
def map {β : Type} (f : α → β) : Call α → Call β
  | done a => done (f a)
  | request q next => request q fun reply => (next reply).map f

end Call

end Filterbook

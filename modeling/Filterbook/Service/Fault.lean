import Filterbook.Service.Call

/-!
# Faults of the storage

What can go wrong between a service and its storage: a filter that is about to be changed or removed
is gone already, or a request is refused.
-/

namespace Filterbook

/-- What goes wrong. -/
inductive Fault where
  /-- A filter is removed by somebody else just before it is replaced or removed. -/
  | vanish
  /-- Removing is refused. -/
  | deleteRefused (message : String)
  /-- Storing a new filter is refused. -/
  | insertRefused (message : String)
  deriving DecidableEq, Repr

/-- The reply to a request, and the storage after it, when something may go wrong. -/
def Fault.answer (fault? : Option Fault) (s : Storage) (q : Request) : q.Reply × Storage :=
  match fault?, q with
  | some .vanish, .update f => (s.delete f.id).2.answer (.update f)
  | some .vanish, .delete id => (s.delete id).2.answer (.delete id)
  | some (.deleteRefused message), .delete _ => (.error (.store (.other message)), s)
  | some (.insertRefused message), .insert _ => (.error (.store (.other message)), s)
  | _, q => s.answer q

end Filterbook

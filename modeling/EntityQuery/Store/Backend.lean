import EntityQuery.Cancellation
import EntityQuery.Capability
import EntityQuery.Mutation
import EntityQuery.Plan.Basic

/-!
Backends: what a repository needs of whatever stores its entities. The state of a backend is a
value, and each operation is a step from one state to the next. Work is done in sessions, which
are acquired before and released after it.
-/

namespace EntityQuery

/-- The answer of a session: a result, and whether the caller's handle is signalled by then. -/
structure Answer (α : Type) where
  result : Except StorageError α
  signalled : Bool

/-- A store of entities of type `E` whose states are of type `σ`. -/
structure Backend (E σ : Type) where
  name : String
  kind : String
  supports : Capability → Bool
  acquire : StateM σ (Except BackendError Unit)
  release : StateM σ Unit
  fetch : Plan → Option (Handle E) → StateM σ (Answer (List (Hit E)))
  count : Option Predicate → Option (Handle E) → StateM σ (Answer Nat)
  insert : List E → StateM σ (Answer Unit)
  /-- Whether there was an entity to replace. -/
  replace : E → StateM σ (Answer Bool)
  updateWhere : Option Predicate → Mutation → Option (Handle E) → StateM σ (Answer Nat)
  deleteWhere : Option Predicate → Option (Handle E) → StateM σ (Answer Nat)

/-- The capabilities of a backend in their usual order. -/
def Backend.capabilities {E σ : Type} (b : Backend E σ) : List Capability :=
  Capability.all.filter b.supports

end EntityQuery

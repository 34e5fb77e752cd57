import EntityQuery.Store.Backend

/-!
A backend around another that can be told to fail, for exercising what is built on backends. It
counts the requests for sessions and may hide capabilities.
-/

namespace EntityQuery

/-- The operations that can be told to fail. -/
inductive FaultPoint where
  | acquire
  | fetch
  | count
  | insert
  | replace
  | updateWhere
  | deleteWhere
  deriving DecidableEq, Repr

namespace FaultPoint

/-- All operations that can be told to fail. -/
def all : List FaultPoint :=
  [.acquire, .fetch, .count, .insert, .replace, .updateWhere, .deleteWhere]

/-- The name of an operation. -/
def name : FaultPoint → String
  | .acquire => "acquire"
  | .fetch => "fetch"
  | .count => "count"
  | .insert => "insert"
  | .replace => "replace"
  | .updateWhere => "update_where"
  | .deleteWhere => "delete_where"

/-- The operation of a name. -/
def ofName? (name : String) : Option FaultPoint := all.find? fun p => p.name == name

end FaultPoint

/-- What goes wrong. -/
inductive Fault where
  | fails (point : FaultPoint) (e : BackendError)
  /-- Nothing is found to replace. -/
  | vanishes
  deriving DecidableEq, Repr

/-- The state of a backend that can be told to fail. -/
structure Faulty (σ : Type) where
  inner : σ
  /-- The number of requests for sessions. -/
  acquired : Nat
  fault : Option Fault

namespace Faulty

variable {E σ α : Type}

/-- A state in which nothing goes wrong and nothing has been asked for. -/
def sound (inner : σ) : Faulty σ := ⟨inner, 0, none⟩

/-- The error that an operation is told to end in. -/
def errorAt (point : FaultPoint) (s : Faulty σ) : Option BackendError :=
  match s.fault with
  | some (.fails p e) => if p = point then some e else none
  | _ => none

/-- A step of the inner backend. -/
def lift (step : StateM σ α) : StateM (Faulty σ) α := fun s =>
  let (x, inner) := step s.inner
  (x, { s with inner })

/-- A step of the inner backend unless it is told to fail. -/
def guarded (point : FaultPoint) (signalled : Bool) (step : StateM σ (Answer α)) :
    StateM (Faulty σ) (Answer α) := do
  match errorAt point (← get) with
  | some e => return ⟨.error (.backend e), signalled⟩
  | none => lift step

/-- The request for a session. -/
def acquire (b : Backend E σ) : StateM (Faulty σ) (Except BackendError Unit) := do
  modify fun s => { s with acquired := s.acquired + 1 }
  match errorAt .acquire (← get) with
  | some e => return .error e
  | none => lift b.acquire

/-- The replacement of an entity. -/
def replace (b : Backend E σ) (e : E) : StateM (Faulty σ) (Answer Bool) := do
  match (← get).fault with
  | some .vanishes => return ⟨.ok false, false⟩
  | _ => guarded .replace false (b.replace e)

/-- The backend with some capabilities hidden that fails as it is told to. -/
def backend (b : Backend E σ) (supports : Capability → Bool) : Backend E (Faulty σ) where
  name := b.name
  kind := b.kind
  supports c := supports c && b.supports c
  acquire := acquire b
  release := lift b.release
  fetch p cancel := guarded .fetch (cancel.any Handle.signalled) (b.fetch p cancel)
  count filter cancel := guarded .count (cancel.any Handle.signalled) (b.count filter cancel)
  insert new := guarded .insert false (b.insert new)
  replace := replace b
  updateWhere filter m cancel :=
    guarded .updateWhere (cancel.any Handle.signalled) (b.updateWhere filter m cancel)
  deleteWhere filter cancel :=
    guarded .deleteWhere (cancel.any Handle.signalled) (b.deleteWhere filter cancel)

end Faulty

end EntityQuery

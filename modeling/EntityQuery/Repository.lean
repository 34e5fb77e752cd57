import EntityQuery.Plan.Query
import EntityQuery.Store.Backend

/-!
Repositories: access to the entities of a backend by requests. A request is resolved as a whole,
then the capabilities it needs are required of the backend, and only then a session is acquired for
it. Clashes of unique keys come out as conflicts, and whatever goes wrong after the caller's signal
comes out as a cancellation. The time and fresh identifiers are given from outside.
-/

namespace EntityQuery

/-- A step of a backend's state that may fail. A failing step has a next state, too. -/
abbrev Action (σ α : Type) := ExceptT StorageError (StateM σ) α

/-- Access to the entities of a schema in a backend. -/
structure Repository (E σ : Type) where
  schema : Schema E
  backend : Backend E σ
  settings : RepositorySettings

namespace Repository

variable {E σ α : Type}

/-! ### Steps -/

/-- What a description resolves to. -/
def resolved (result : Except QueryError α) : Action σ α :=
  ExceptT.mk (pure (result.mapError .query))

/-- Requires capabilities of the backend; the first that is missing is an error. -/
def require (r : Repository E σ) (needed : List Capability) : Action σ Unit :=
  match needed.find? fun c => !r.backend.supports c with
  | some c => throw (.backend (.unsupportedCapability r.backend.name c.name))
  | none => pure ()

/-- Work in a session, which is released whatever comes of the work. -/
def inSession (r : Repository E σ) (work : Action σ α) : Action σ α := ExceptT.mk do
  match ← r.backend.acquire with
  | .error e => return .error (.backend e)
  | .ok () =>
    let result ← work.run
    r.backend.release
    return result

/-- The error that the caller gets for one of the backend. -/
def outcome (signalled : Bool) : StorageError → StorageError
  | e => if signalled then .cancelled
    else match e with
      | .backend (.uniqueViolation _ entity key) => .conflict entity key
      | e => e

/-- A step of the backend as the caller sees it. -/
def finish (step : StateM σ (Answer α)) : Action σ α := ExceptT.mk do
  let answer ← step
  return answer.result.mapError (outcome answer.signalled)

/-! ### Queries -/

/-- The results of a plan. -/
def query (r : Repository E σ) (p : Plan) (cancel : Option (Handle E)) :
    Action σ (List (Hit E)) := do
  resolved p.validate
  r.require p.requiredCapabilities
  r.inSession (finish (r.backend.fetch p cancel))

/-- The start of a listing that is put together by hand. -/
def items (r : Repository E σ) : Listing := .firstOf r.settings.defaultTake

/-- The results of a listing. -/
def queryItems (r : Repository E σ) (l : Listing) (cancel : Option (Handle E)) :
    Action σ (List (Hit E)) :=
  r.query (l.plan r.schema r.settings) cancel

/-- The results of a listing request. -/
def getItems (r : Repository E σ) (request : ListingRequest) (cancel : Option (Handle E)) :
    Action σ (List (Hit E)) := do
  r.queryItems (← resolved (Listing.ofRequest r.schema request)) cancel

/-- One result for each value of a property. -/
def groupByDistinct (r : Repository E σ) (request : GroupingRequest)
    (cancel : Option (Handle E)) : Action σ (List (Hit E)) := do
  let g ← resolved (Grouping.ofRequest r.schema request)
  r.query (g.plan r.settings) cancel

/-- The predicate that one identifier passes. -/
def byId (s : Schema E) (id : Uuid) : Except QueryError Predicate :=
  Predicate.ofFilter s (.equal "Id" id.text)

/-- The error for an identifier that no entity has. -/
def notFound (s : Schema E) (id : Uuid) : StorageError := .notFound s.name id.text

/-- What is there, or the error for an identifier that no entity has. -/
def orNotFound (s : Schema E) (id : Uuid) : Option α → Action σ α
  | some x => pure x
  | none => throw (notFound s id)

/-- The entity with an identifier. -/
def get (r : Repository E σ) (id : Uuid) (includes : List String) : Action σ E := do
  let filter ← resolved (byId r.schema id)
  let includes ← resolved (r.schema.includes includes)
  let hits ← r.query { Plan.everything with includes, filter := some filter } none
  orNotFound r.schema id (hits.head?.bind Hit.entity?)

/-- The entity with an identifier, reshaped. -/
def getSelect (r : Repository E σ) (id : Uuid) (request : EntityRequest) : Action σ (Hit E) := do
  let lookup ← resolved (Lookup.ofRequest r.schema request)
  let filter ← resolved (byId r.schema id)
  let hits ← r.query (lookup.plan filter) none
  orNotFound r.schema id hits.head?

/-- All entities in the order of the backend. -/
def getAll (r : Repository E σ) (cancel : Option (Handle E)) : Action σ (List E) := do
  return (← r.query .everything cancel).filterMap Hit.entity?

/-- The first entity that passes the filters, in the order of listings. -/
def first (r : Repository E σ) (filters : Option FilterList) (cancel : Option (Handle E)) :
    Action σ (Option E) := do
  let filter ← resolved (filters.mapM (Predicate.ofList r.schema))
  let hits ← r.queryItems { r.items with filter, page := ⟨0, 1⟩ } cancel
  return hits.head?.bind Hit.entity?

/-- The number of entities that pass the filters. -/
def count (r : Repository E σ) (filters : Option FilterList) (cancel : Option (Handle E)) :
    Action σ Nat := do
  let filter ← resolved (filters.mapM (Predicate.ofList r.schema))
  r.require (if filter.isSome then [.filtering] else [])
  r.inSession (finish (r.backend.count filter cancel))

/-! ### Bulk changes -/

/-- Applies a change and tells how many entities it changed. -/
def executeUpdate (r : Repository E σ) (c : BulkChange) (cancel : Option (Handle E)) :
    Action σ Nat := do
  r.require [.bulkUpdate]
  r.inSession (finish (r.backend.updateWhere c.filter c.mutation cancel))

/-- Applies the change of a request. -/
def updateWhere (r : Repository E σ) (request : ChangeRequest) (cancel : Option (Handle E)) :
    Action σ Nat := do
  r.executeUpdate (← resolved (BulkChange.ofRequest r.schema request)) cancel

/-- Deletes the entities that pass the filters and tells how many there were. -/
def deleteWhere (r : Repository E σ) (filters : Option FilterList) (cancel : Option (Handle E)) :
    Action σ Nat := do
  let filter ← resolved (filters.mapM (Predicate.ofList r.schema))
  r.require [.bulkDelete]
  r.inSession (finish (r.backend.deleteWhere filter cancel))

/-- Deletes the entity with an identifier. -/
def delete (r : Repository E σ) (id : Uuid) : Action σ Unit := do
  let filter ← resolved (byId r.schema id)
  let n ← r.inSession (finish (r.backend.deleteWhere (some filter) none))
  if n = 0 then throw (notFound r.schema id)

/-! ### Single writes -/

variable [Entity E]

/-- A new entity as it is stored: with an identifier, and created and changed now. -/
def stamped (now : Instant) (fresh : Uuid) (e : E) : E :=
  let base := Entity.base e
  let id := if base.id.isNil then fresh else base.id
  Entity.withBase e { base with id, createdAt := now, modifiedAt := now }

/-- Stores new entities, all or none. The one at position `i` gets the identifier `fresh i` unless
it has one. -/
def bulkInsert (r : Repository E σ) (now : Instant) (fresh : Nat → Uuid) (new : List E) :
    Action σ (List E) := do
  let new := new.mapIdx fun i e => stamped now (fresh i) e
  r.inSession (finish (r.backend.insert new))
  return new

/-- Stores a new entity. -/
def insert (r : Repository E σ) (now : Instant) (fresh : Uuid) (e : E) : Action σ E := do
  match (← r.bulkInsert now (fun _ => fresh) [e]).getLast? with
  | some e => return e
  | none => throw (.backend (.internal r.backend.name "insert returned no entity"))

/-- An entity in place of a stored one, whose identity, origin and mark of deletion it takes. -/
def inPlaceOf (now : Instant) (id : Uuid) (stored e : E) : E :=
  Entity.withBase e { Entity.base stored with id, modifiedAt := now }

/-- Puts an entity in the place of the one with an identifier. -/
def update (r : Repository E σ) (now : Instant) (id : Uuid) (e : E) : Action σ E := do
  let filter ← resolved (byId r.schema id)
  r.inSession do
    let hits ← finish (r.backend.fetch { Plan.everything with filter := some filter } none)
    let stored ← orNotFound r.schema id (hits.head?.bind Hit.entity?)
    let new := inPlaceOf now id stored e
    if ← finish (r.backend.replace new) then return new
    else throw (notFound r.schema id)

end Repository

end EntityQuery

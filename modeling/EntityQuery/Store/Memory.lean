import EntityQuery.Settings
import EntityQuery.Store.Backend
import EntityQuery.Store.Trace

/-!
The store in memory: a list of entities in the order of insertion, and a limited number of
sessions. It can do everything a plan may ask for.
-/

namespace EntityQuery

/-- The state of a store in memory. -/
structure MemoryStore (E : Type) where
  rows : List E
  settings : StoreSettings
  /-- The number of sessions in use. -/
  held : Nat

namespace MemoryStore

variable {E : Type}

/-- The name of the store. -/
def name : String := "memory"

/-- A store without entities. -/
def empty (settings : StoreSettings) : MemoryStore E := ⟨[], settings, 0⟩

/-- The number of sessions that are left. -/
def free (m : MemoryStore E) : Nat := m.settings.maxSessions.toNat - m.held

/-- Takes a session. Without a free one the wait for it ends in vain. -/
def acquire : StateM (MemoryStore E) (Except BackendError Unit) := do
  let m ← get
  if m.free = 0 then return .error (.poolExhausted name)
  set { m with held := m.held + 1 }
  return .ok ()

/-- Gives a session back. -/
def release : StateM (MemoryStore E) Unit :=
  modify fun m => { m with held := m.held - 1 }

/-! ### Watching a handle -/

/-- The error of work that a checkpoint ended. -/
def interrupted : StorageError := .backend (.interrupted name)

/-- The handle after work with the given events, unless a checkpoint ends the work. -/
def watch (cancel : Option (Handle E)) (events : List (Event E)) :
    Except StorageError (Option (Handle E)) :=
  match cancel with
  | none => .ok none
  | some h =>
    match h.follow events with
    | some h => .ok (some h)
    | none => .error interrupted

/-- The answer of work with the given events that no checkpoint ends, and of work that one does. -/
def watched {α : Type} (cancel : Option (Handle E)) (events : List (Event E))
    (result : Except StorageError α) : Answer α :=
  match watch cancel events with
  | .ok cancel => ⟨result, cancel.any Handle.signalled⟩
  | .error e => ⟨.error e, true⟩

/-! ### Reading -/

/-- The positions of the rows that pass a filter, and the handle after the search for them. -/
def matching (s : Schema E) (rows : List E) (filter : Option Predicate)
    (cancel : Option (Handle E)) : Except StorageError (List Nat × Option (Handle E)) := do
  let cancel ← watch cancel (Plan.matchingEvents s filter rows)
  return (Rows.positions s filter rows, cancel)

/-- The results of a plan. A contradictory plan is refused before anything is read. -/
def fetch (s : Schema E) (rows : List E) (p : Plan) (cancel : Option (Handle E)) :
    Answer (List (Hit E)) :=
  match p.validate with
  | .error e => ⟨.error (.query e), cancel.any Handle.signalled⟩
  | .ok () => watched cancel (p.events s rows) ((p.execute s rows).mapError .query)

/-- The number of rows that pass a filter. -/
def count (s : Schema E) (rows : List E) (filter : Option Predicate)
    (cancel : Option (Handle E)) : Answer Nat :=
  match matching s rows filter cancel with
  | .ok (selected, cancel) => ⟨.ok selected.length, cancel.any Handle.signalled⟩
  | .error e => ⟨.error e, true⟩

/-! ### Writing

A write gives its answer and the rows it leaves behind. It works on the rows themselves and undoes
what it did where it fails. -/

/-- The error of a clash. -/
def violation (s : Schema E) (key : String) : StorageError :=
  .backend (.uniqueViolation name s.name key)

/-- Removes the rows that pass a filter, and tells how many there were. -/
def deleteWhere (s : Schema E) (filter : Option Predicate) (cancel : Option (Handle E))
    (rows : List E) : Answer Nat × List E :=
  match matching s rows filter cancel with
  | .ok (selected, cancel) =>
    (⟨.ok selected.length, cancel.any Handle.signalled⟩, Rows.remove selected rows)
  | .error e => (⟨.error e, true⟩, rows)

variable [Entity E]

/-- Puts entities at the end of the rows. If one of them clashes, the rows are cut back to their
old length. -/
def insert (s : Schema E) (new rows : List E) : Except StorageError Unit × List E :=
  let grown := rows ++ new
  match Rows.clash? s grown (List.range' rows.length new.length) with
  | some key => (.error (violation s key), grown.take rows.length)
  | none => (.ok (), grown)

/-- Puts an entity in the place of the first one with its identifier, and tells whether there was
one. If it clashes there, the one that it displaced returns. -/
def replace (s : Schema E) (e : E) (rows : List E) : Except StorageError Bool × List E :=
  match rows.findIdx? fun r => Entity.id r == Entity.id e with
  | none => (.ok false, rows)
  | some i =>
    let (previous, new) := Rows.exchange rows [(i, e)]
    match Rows.clash? s new [i] with
    | some key => (.error (violation s key), Rows.place new ([i].zip previous))
    | none => (.ok true, new)

/-- Applies a mutation to copies of the entities at some positions and puts the copies in their
places. Clashes are looked for when all of them stand there; if there is one, the displaced
entities return. -/
def update (s : Schema E) (m : Mutation) (selected : List Nat) (rows : List E) :
    Except StorageError Nat × List E :=
  match Rows.rewritten s m rows selected with
  | .error e => (.error (.query e), rows)
  | .ok updated =>
    let (previous, new) := Rows.exchange rows (selected.zip updated)
    match Rows.clash? s new selected with
    | some key => (.error (violation s key), Rows.place new (selected.zip previous))
    | none => (.ok selected.length, new)

/-- Changes the rows that pass a filter, and tells how many there were. -/
def updateWhere (s : Schema E) (filter : Option Predicate) (m : Mutation)
    (cancel : Option (Handle E)) (rows : List E) : Answer Nat × List E :=
  match matching s rows filter cancel with
  | .error e => (⟨.error e, true⟩, rows)
  | .ok (selected, cancel) =>
    let signalled := match watch cancel (Rows.updateEvents s m selected rows) with
      | .ok cancel => cancel.any Handle.signalled
      | .error _ => true
    let (result, new) := update s m selected rows
    (⟨result, signalled⟩, new)

/-! ### The backend -/

/-- Work on the rows of a store. -/
def onRows {α : Type} (work : List E → Answer α × List E) : StateM (MemoryStore E) (Answer α) :=
  fun m => let (answer, rows) := work m.rows; (answer, { m with rows })

/-- The store in memory as a backend for entities of a schema. -/
def backend (s : Schema E) : Backend E (MemoryStore E) where
  name := name
  kind := "memory"
  supports _ := true
  acquire := acquire
  release := release
  fetch p cancel := do return fetch s (← get).rows p cancel
  count filter cancel := do return count s (← get).rows filter cancel
  insert new := onRows fun rows => let (result, rows) := insert s new rows; (⟨result, false⟩, rows)
  replace e := onRows fun rows => let (result, rows) := replace s e rows; (⟨result, false⟩, rows)
  updateWhere filter m cancel := onRows (updateWhere s filter m cancel)
  deleteWhere filter cancel := onRows (deleteWhere s filter cancel)

end MemoryStore

end EntityQuery

import EntityQuery.Plan.Trace
import EntityQuery.Store.Rows

/-!
The fields that are read when unique keys are checked. A key is read up to its first null, the keys
of the others only if that of the changed entity is complete, and nothing after the first clash.
-/

namespace EntityQuery.Rows

variable {E : Type}

/-- The reads of a unique key. -/
def keyEvents (s : Schema E) (key : UniqueKey) (e : E) : List (Event E) :=
  Event.reads e (Event.upTo (fun f => (s.read e f).isNull) key.fields)

/-- The reads of comparing the unique key of an entity with those of others. -/
def sharesEvents (s : Schema E) (e : E) (others : List E) (key : UniqueKey) : List (Event E) :=
  keyEvents s key e ++
    if (keyOf s key e).isSome then
      (Event.upTo (shares s key e) others).flatMap (keyEvents s key)
    else []

variable [Entity E]

/-- The reads of looking for a clash of an entity with others. -/
def clashWithEvents (s : Schema E) (e : E) (others : List E) : List (Event E) :=
  if others.any fun o => Entity.id o == Entity.id e then []
  else (Event.upTo (fun key => others.any (shares s key e)) s.unique).flatMap
    (sharesEvents s e others)

/-- The reads of looking for clashes of the entities at some positions. -/
def clashEvents (s : Schema E) (rows : List E) (positions : List Nat) : List (Event E) :=
  (Event.upTo (fun i => (clashAt s rows i).isSome) positions).flatMap fun i =>
    match rows[i]? with
    | some e => clashWithEvents s e (rows.eraseIdx i)
    | none => []

/-- The events of changing the entities at some positions: only the search for clashes reads
fields, and only if no field refused its value. -/
def updateEvents (s : Schema E) (m : Mutation) (selected : List Nat) (rows : List E) :
    List (Event E) :=
  match rewritten s m rows selected with
  | .ok updated => clashEvents s (exchange rows (selected.zip updated)).2 selected
  | .error _ => []

end EntityQuery.Rows

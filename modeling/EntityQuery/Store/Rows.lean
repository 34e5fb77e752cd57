import EntityQuery.Mutation
import EntityQuery.Plan.Execution

/-!
Lists of stored entities: which of them share an identifier, or the values of a unique key without
null, and how the entities at some positions are found, exchanged and removed.
-/

namespace EntityQuery.Rows

variable {E : Type}

/-! ### Positions -/

/-- The positions of the entities that pass a filter, in ascending order. -/
def positions (s : Schema E) (filter : Option Predicate) (rows : List E) : List Nat :=
  (List.range rows.length).filter fun i => rows[i]?.any (Plan.passes s filter)

/-- Copies of the entities at some positions, with a mutation applied to each. The first value that
a field refuses is the result. -/
def rewritten (s : Schema E) (m : Mutation) (rows : List E) (selected : List Nat) :
    Except QueryError (List E) :=
  (selected.filterMap (rows[·]?)).mapM (m.apply s)

/-- The rows with entities put at positions, one after the other. -/
def place (rows : List E) (placed : List (Nat × E)) : List E :=
  placed.foldl (fun rows p => rows.set p.1 p.2) rows

/-- Puts entities at positions, one after the other, and gives those that stood there before with
the new rows. -/
def exchange : List E → List (Nat × E) → List E × List E
  | rows, [] => ([], rows)
  | rows, (i, e) :: rest =>
    let (previous, new) := exchange (rows.set i e) rest
    (rows[i]?.toList ++ previous, new)

/-- The rows from position `i` on without those at some positions, which are in ascending order. -/
def removeFrom : (i : Nat) → (selected : List Nat) → List E → List E
  | _, _, [] => []
  | _, [], rows => rows
  | i, next :: selected, e :: rest =>
    if next = i then removeFrom (i + 1) selected rest
    else e :: removeFrom (i + 1) (next :: selected) rest

/-- The rows without those at some positions, which are in ascending order. -/
def remove (selected : List Nat) (rows : List E) : List E := removeFrom 0 selected rows

/-! ### Unique keys -/

/-- The values of a unique key, if none of them is null. -/
def keyOf (s : Schema E) (key : UniqueKey) (e : E) : Option (List Value) :=
  key.fields.mapM fun f =>
    let v := s.read e f
    if v.isNull then none else some v

/-- Whether two lists of values are equal place by place. -/
def sameValues : List Value → List Value → Bool
  | [], [] => true
  | v :: vs, w :: ws => v.equal w && sameValues vs ws
  | _, _ => false

/-- Whether two entities share the values of a unique key. -/
def shares (s : Schema E) (key : UniqueKey) (a b : E) : Bool :=
  match keyOf s key a, keyOf s key b with
  | some vs, some ws => sameValues ws vs
  | _, _ => false

/-- The name under which a shared identifier is reported. -/
def primary : String := "PRIMARY"

variable [Entity E]

/-- The key that an entity shares with one of some others: the identifier counts first, then the
unique keys as they are declared. -/
def clashWith (s : Schema E) (e : E) (others : List E) : Option String :=
  if others.any fun o => Entity.id o == Entity.id e then some primary
  else (s.unique.find? fun key => others.any (shares s key e)).map UniqueKey.name

/-- The key that the entity at a position shares with another. -/
def clashAt (s : Schema E) (rows : List E) (i : Nat) : Option String :=
  rows[i]?.bind fun e => clashWith s e (rows.eraseIdx i)

/-- The first clash among the entities at some positions. -/
def clash? (s : Schema E) (rows : List E) (positions : List Nat) : Option String :=
  positions.findSome? (clashAt s rows)

end EntityQuery.Rows

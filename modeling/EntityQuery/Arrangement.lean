import EntityQuery.Projection

/-!
Sorting and grouping by one field. Sorting is stable: entities that compare equal keep their order.
Groups stand in the order of their first members, and a representative is chosen from each.
-/

namespace EntityQuery

variable {E : Type}

/-! ### Sorting -/

/-- Up or down. Null comes first going up and last going down. -/
inductive Direction where
  | ascending
  | descending
  deriving DecidableEq, Repr

/-- The keyword of a direction. -/
def Direction.keyword : Direction → String
  | .ascending => "ASC"
  | .descending => "DESC"

/-- A field to sort by. -/
structure SortKey where
  field : FieldRef
  direction : Direction
  deriving DecidableEq, Repr

namespace SortKey

/-- The sort key of a rule. -/
def ofRule (s : Schema E) (rule : SortRule) : Except QueryError SortKey := do
  return ⟨← s.resolve rule.property, if rule.descending then .descending else .ascending⟩

/-- The order of two entities. -/
def compare (s : Schema E) (k : SortKey) (a b : E) : Ordering :=
  let o := (s.read a k.field).sortCompare (s.read b k.field)
  match k.direction with
  | .ascending => o
  | .descending => o.swap

/-- The text of a sort key. -/
def describe (k : SortKey) : String := k.field.name ++ " " ++ k.direction.keyword

/-- Puts an entity into a list that falls from its head: behind the entities it is smaller than,
in front of the first one it is not. -/
def place (s : Schema E) (k : SortKey) (e : E) : List E → List E
  | [] => [e]
  | top :: rest => if k.compare s e top == .lt then top :: place s k e rest else e :: top :: rest

/-- The entities in order, by insertion from the left. -/
def sort (s : Schema E) (k : SortKey) (es : List E) : List E :=
  (es.foldl (fun sorted e => place s k e sorted) []).reverse

/-- The entities that sorting looks at. One entity alone is in order unseen. -/
def looksAt : List E → List E
  | [_] => []
  | es => es

end SortKey

/-! ### Grouping -/

/-- The entities that share a key. -/
structure Group (E : Type) where
  key : Value
  members : List E

/-- A field to group by. -/
structure GroupKey where
  field : FieldRef
  deriving DecidableEq, Repr

namespace GroupKey

/-- The group key of a property. -/
def ofName (s : Schema E) (property : String) : Except QueryError GroupKey := do
  return ⟨← s.resolve property⟩

/-- Groups with one more entity: in the first group with its key, or in a new one at the end. -/
def add (key : Value) (e : E) : List (Group E) → List (Group E)
  | [] => [⟨key, [e]⟩]
  | g :: rest =>
    if g.key.equal key then { g with members := g.members ++ [e] } :: rest
    else g :: add key e rest

/-- The groups of a list of entities. Null is a key like any other. -/
def group (s : Schema E) (k : GroupKey) (es : List E) : List (Group E) :=
  es.foldl (fun groups e => add (s.read e k.field) e groups) []

end GroupKey

/-- How one result is made of a group: the first member after sorting, reshaped. -/
structure Representative where
  order : Option SortKey
  projection : Option Projection
  deriving DecidableEq, Repr

namespace Representative

/-- The choice that a rule describes. -/
def ofRule (s : Schema E) (rule : GroupRule) : Except QueryError Representative := do
  let order ← rule.order.mapM (SortKey.ofRule s)
  let projection ← rule.selection.mapM (Projection.ofSelection s)
  return ⟨order, projection⟩

/-- The members of a group in the order of choice. -/
def ordered (s : Schema E) (r : Representative) (members : List E) : List E :=
  match r.order with
  | some key => key.sort s members
  | none => members

/-- The result that stands for a group. Only an empty group has none. -/
def select (s : Schema E) (r : Representative) (g : Group E) :
    Except QueryError (Option (Hit E)) :=
  match r.ordered s g.members with
  | [] => .ok none
  | first :: _ =>
    match r.projection with
    | some p => (fun row => some (.row row)) <$> p.apply s first
    | none => .ok (some (.entity first))

end Representative

/-- How the entities of a result are arranged: one by one, maybe sorted, or one for each group. -/
inductive Arrangement where
  | sorted (key : Option SortKey)
  | grouped (key : GroupKey) (representative : Representative)
  deriving DecidableEq, Repr

end EntityQuery

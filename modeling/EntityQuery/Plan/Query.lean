import EntityQuery.Mutation
import EntityQuery.Plan.Basic
import EntityQuery.Settings

/-!
From requests to plans. A request is resolved against a schema as a whole, so a request that names
anything unknown or contradicts itself has no plan; the settings then fill in what it leaves open.
-/

namespace EntityQuery

variable {E : Type}

/-- A resolved listing whose sort order and page are still those of the request. -/
structure Listing where
  includes : List String
  filter : Option Predicate
  order : Option SortKey
  projection : Option Projection
  page : Page
  deriving Repr

namespace Listing

/-- The first `take` entities. -/
def firstOf (take : UInt32) : Listing := ⟨[], none, none, none, ⟨0, take⟩⟩

/-- The predicate of a request: its filter list if there is one, otherwise its single filter. -/
def predicate (s : Schema E) (r : ListingRequest) : Except QueryError (Option Predicate) :=
  match r.filters with
  | some list => some <$> Predicate.ofList s list
  | none => r.filter.mapM (Predicate.ofFilter s)

/-- The listing of a request. -/
def ofRequest (s : Schema E) (r : ListingRequest) : Except QueryError Listing := do
  let filter ← predicate s r
  let includes ← s.includes (r.includes.getD [])
  let order ← r.order.mapM (SortKey.ofRule s)
  let projection ← r.selection.mapM (Projection.ofSelection s)
  return ⟨includes, filter, order, projection, ⟨r.skip, r.take⟩⟩

/-- The listing with one more navigation. -/
def including (s : Schema E) (l : Listing) (name : String) : Except QueryError Listing := do
  let n ← s.navigation name
  return if l.includes.contains n.name then l else { l with includes := l.includes ++ [n.name] }

/-- The sort key of a listing. If it has none, and the settings say so, the latest changes come
first. -/
def sortKey (s : Schema E) (settings : RepositorySettings) (l : Listing) : Option SortKey :=
  match l.order with
  | some key => some key
  | none =>
    if settings.defaultOrder then s.modifiedAt.map fun f => ⟨f, .descending⟩ else none

/-- The plan of a listing under some settings. -/
def plan (s : Schema E) (settings : RepositorySettings) (l : Listing) : Plan :=
  { includes := l.includes
    filter := l.filter
    arrangement := .sorted (l.sortKey s settings)
    projection := l.projection
    page := settings.page l.page.skip l.page.take }

end Listing

/-- A resolved grouping. -/
structure Grouping where
  filter : Option Predicate
  key : GroupKey
  representative : Representative
  page : Page
  deriving Repr

namespace Grouping

/-- The grouping of a request. -/
def ofRequest (s : Schema E) (r : GroupingRequest) : Except QueryError Grouping := do
  let filter ← r.filters.mapM (Predicate.ofList s)
  let key ← GroupKey.ofName s r.group.property
  let representative ← Representative.ofRule s r.group
  return ⟨filter, key, representative, ⟨r.skip, r.take⟩⟩

/-- The plan of a grouping under some settings. Groups are never sorted by default. -/
def plan (settings : RepositorySettings) (g : Grouping) : Plan :=
  { includes := []
    filter := g.filter
    arrangement := .grouped g.key g.representative
    projection := none
    page := settings.page g.page.skip g.page.take }

end Grouping

/-- A resolved request for one entity. -/
structure Lookup where
  includes : List String
  projection : Option Projection
  deriving Repr

namespace Lookup

/-- The look-up of a request. -/
def ofRequest (s : Schema E) (r : EntityRequest) : Except QueryError Lookup := do
  let includes ← s.includes (r.includes.getD [])
  let projection ← r.selection.mapM (Projection.ofSelection s)
  return ⟨includes, projection⟩

/-- The plan of a look-up among the entities that pass a filter. -/
def plan (filter : Predicate) (l : Lookup) : Plan :=
  { Plan.everything with
    includes := l.includes, filter := some filter, projection := l.projection }

end Lookup

/-- A resolved change of many entities; without filter, of all. -/
structure BulkChange where
  filter : Option Predicate
  mutation : Mutation
  deriving Repr

namespace BulkChange

/-- The change of a request. -/
def ofRequest (s : Schema E) (r : ChangeRequest) : Except QueryError BulkChange := do
  let filter ← r.filters.mapM (Predicate.ofList s)
  let mutation ← Mutation.ofChanges s r.changes
  return ⟨filter, mutation⟩

/-- The text of a change. -/
def describe (c : BulkChange) : String :=
  match c.filter with
  | some f => c.mutation.describe ++ " WHERE " ++ f.describe
  | none => c.mutation.describe

end BulkChange

end EntityQuery

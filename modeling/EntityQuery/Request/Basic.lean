import EntityQuery.Page
import EntityQuery.Request.Filter
import EntityQuery.Request.Shape

/-!
Requests as they come in, before any name is resolved: a listing, one entity, one row for each
group, and a change of many rows.
-/

namespace EntityQuery

/-- A property and the literal it is to be set to. -/
structure PropertyChange where
  property : String
  value : Option String
  deriving DecidableEq, Repr

/-- How many rows a request takes if it does not say. -/
def usualTake : UInt32 := 10

/-- A listing. A filter list counts more than a single filter. -/
structure ListingRequest where
  selection : Option Selection
  filter : Option Filter
  filters : Option FilterList
  order : Option SortRule
  skip : UInt32
  take : UInt32
  includes : Option (List String)
  deriving DecidableEq, Repr

/-- The listing that asks for nothing in particular. -/
def ListingRequest.usual : ListingRequest := ⟨none, none, none, none, 0, usualTake, none⟩

/-- One entity, possibly reshaped. -/
structure EntityRequest where
  selection : Option Selection
  includes : Option (List String)
  deriving DecidableEq, Repr

/-- The request for an entity as it is. -/
def EntityRequest.usual : EntityRequest := ⟨none, none⟩

/-- One row for each group. -/
structure GroupingRequest where
  group : GroupRule
  filters : Option FilterList
  skip : UInt32
  take : UInt32
  deriving DecidableEq, Repr

/-- The first page of groups. -/
def GroupingRequest.ofRule (group : GroupRule) : GroupingRequest := ⟨group, none, 0, usualTake⟩

/-- A change of all rows that pass the filters. -/
structure ChangeRequest where
  filters : Option FilterList
  changes : List PropertyChange
  deriving DecidableEq, Repr

end EntityQuery

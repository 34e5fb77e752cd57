/-!
What a backend may be able to do.
-/

namespace EntityQuery

/-- An ability that a query may rely on. -/
inductive Capability where
  | filtering
  | projection
  | ordering
  | grouping
  | pagination
  | bulkUpdate
  | bulkDelete
  | eagerLoading
  | uniqueConstraints
  | cancellation
  deriving DecidableEq, Repr

namespace Capability

/-- All capabilities in their usual order. -/
def all : List Capability :=
  [.filtering, .projection, .ordering, .grouping, .pagination, .bulkUpdate, .bulkDelete,
    .eagerLoading, .uniqueConstraints, .cancellation]

/-- The name of a capability. -/
def name : Capability → String
  | .filtering => "filtering"
  | .projection => "projection"
  | .ordering => "ordering"
  | .grouping => "grouping"
  | .pagination => "pagination"
  | .bulkUpdate => "bulk-update"
  | .bulkDelete => "bulk-delete"
  | .eagerLoading => "eager-loading"
  | .uniqueConstraints => "unique-constraints"
  | .cancellation => "cancellation"

/-- The capability of a name. -/
def ofName? (name : String) : Option Capability := all.find? fun c => c.name == name

end Capability

end EntityQuery

import EntityQuery.Arrangement
import EntityQuery.Capability
import EntityQuery.Page
import EntityQuery.Predicate

/-!
Plans: queries with every name resolved. A plan keeps the entities that pass its filter, arranges
them, cuts out a page and reshapes what is left; only the included navigations stay loaded.
-/

namespace EntityQuery

/-- A resolved query. -/
structure Plan where
  /-- The navigations that stay loaded. -/
  includes : List String
  filter : Option Predicate
  arrangement : Arrangement
  projection : Option Projection
  page : Page
  deriving Repr

namespace Plan

/-- Every entity as it is. -/
def everything : Plan := ⟨[], none, .sorted none, none, .unbounded⟩

/-- The projection of the results: a representative's own counts more than the plan's. -/
def effectiveProjection (p : Plan) : Option Projection :=
  match p.arrangement with
  | .sorted _ => p.projection
  | .grouped _ r => r.projection <|> p.projection

/-- Whether there is one result for each group. -/
def isGrouped (p : Plan) : Bool :=
  match p.arrangement with
  | .sorted _ => false
  | .grouped .. => true

/-- A grouped plan is projected once at most. -/
def validate (p : Plan) : Except QueryError Unit :=
  match p.arrangement with
  | .sorted _ => .ok ()
  | .grouped _ r =>
    if r.projection.isSome ∧ p.projection.isSome then .error (.invalidArgument .projectedTwice)
    else .ok ()

/-- What the arrangement asks of a backend. -/
def arrangementCapabilities : Arrangement → List Capability
  | .sorted none => []
  | .sorted (some _) => [.ordering]
  | .grouped _ r => if r.order.isSome then [.grouping, .ordering] else [.grouping]

/-- What the plan asks of a backend. -/
def requiredCapabilities (p : Plan) : List Capability :=
  (if p.includes.isEmpty then [] else [.eagerLoading]) ++
    (if p.filter.isSome then [.filtering] else []) ++
    arrangementCapabilities p.arrangement ++
    (if p.effectiveProjection.isSome then [.projection] else []) ++
    (if p.page.isUnbounded then [] else [.pagination])

/-- The text of a plan, in one line. -/
def describe (p : Plan) : String :=
  let filter := match p.filter with
    | some f => "WHERE " ++ f.describe
    | none => "ALL"
  let arrangement := match p.arrangement with
    | .sorted none => ""
    | .sorted (some key) => " ORDER BY " ++ key.describe
    | .grouped key _ => " GROUP BY " ++ key.field.name
  let projection := match p.effectiveProjection with
    | some projection => " SELECT " ++ ", ".intercalate (projection.columns.map Column.key)
    | none => ""
  let page := " SKIP " ++ toString p.page.skip ++ " TAKE " ++ toString p.page.take
  let includes := if p.includes.isEmpty then "" else " INCLUDE " ++ ", ".intercalate p.includes
  filter ++ arrangement ++ projection ++ page ++ includes

end Plan

end EntityQuery

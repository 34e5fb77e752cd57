import EntityQuery.Plan.Basic

/-!
What a plan yields on a list of entities: those that pass the filter, without the navigations that
are not included, sorted or grouped, of these one page, and of each a result.
-/

namespace EntityQuery.Plan

variable {E : Type}

/-- Whether an entity passes a filter. Without filter every entity does. -/
def passes (s : Schema E) (filter : Option Predicate) (e : E) : Bool :=
  filter.all fun p => p.holds s e

/-- The entities that the plan is about. -/
def kept (s : Schema E) (p : Plan) (es : List E) : List E :=
  (es.filter (passes s p.filter)).map (s.unloadExcept p.includes)

/-- Entities in the order of a sort key, if there is one. -/
def arrange (s : Schema E) (key : Option SortKey) (es : List E) : List E :=
  match key with
  | some k => k.sort s es
  | none => es

/-- The result made of an entity. -/
def present (s : Schema E) (projection : Option Projection) (e : E) : Except QueryError (Hit E) :=
  match projection with
  | some p => .row <$> p.apply s e
  | none => .ok (.entity e)

/-- The result made of a group: its representative, reshaped by the projection if that was not
done yet. -/
def presentGroup (s : Schema E) (r : Representative) (projection : Option Projection)
    (g : Group E) : Except QueryError (Option (Hit E)) := do
  match ← r.select s g with
  | some (.entity e) => some <$> present s projection e
  | hit => return hit

/-- The results of a plan. -/
def execute (s : Schema E) (p : Plan) (es : List E) : Except QueryError (List (Hit E)) := do
  p.validate
  match p.arrangement with
  | .sorted key => (p.page.apply (arrange s key (p.kept s es))).mapM (present s p.projection)
  | .grouped key r =>
    let hits ← (p.page.apply (key.group s (p.kept s es))).mapM (presentGroup s r p.projection)
    return hits.filterMap id

end EntityQuery.Plan

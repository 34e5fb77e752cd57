import EntityQuery.Cancellation
import EntityQuery.Plan.Execution

/-!
The events of executing a plan, in the order in which they happen. Filtering and the making of
results are loops with checkpoints; sorting and grouping are not. A result that cannot be made
ends the work.
-/

namespace EntityQuery.Plan

variable {E : Type}

/-- The events of looking for the entities that pass a filter. -/
def matchingEvents (s : Schema E) (filter : Option Predicate) (es : List E) : List (Event E) :=
  Event.loop (fun e => Event.reads e ((filter.map (·.reads s e)).getD [])) es

/-- The events of sorting. -/
def sortEvents (key : Option SortKey) (es : List E) : List (Event E) :=
  match key with
  | some k => (SortKey.looksAt es).map (.read · k.field)
  | none => []

/-- The events of making a result of an entity. -/
def presentEvents (s : Schema E) (projection : Option Projection) (e : E) : List (Event E) :=
  match projection with
  | some p => Event.reads e (Projection.reads s e p.columns)
  | none => []

/-- The events of making a result of a group. -/
def groupEvents (s : Schema E) (r : Representative) (projection : Option Projection)
    (g : Group E) : List (Event E) :=
  sortEvents r.order g.members ++
    match r.ordered s g.members with
    | first :: _ => presentEvents s projection first
    | [] => []

/-- Whether making a result fails. -/
def fails {α : Type} (result : Except QueryError α) : Bool :=
  match result with
  | .ok _ => false
  | .error _ => true

/-- The events of executing a valid plan. -/
def events (s : Schema E) (p : Plan) (es : List E) : List (Event E) :=
  let kept := p.kept s es
  matchingEvents s p.filter es ++
    match p.arrangement with
    | .sorted key =>
      let page := p.page.apply (arrange s key kept)
      sortEvents key kept ++
        Event.loop (presentEvents s p.projection)
          (Event.upTo (fun e => fails (present s p.projection e)) page)
    | .grouped key r =>
      let page := p.page.apply (key.group s kept)
      kept.map (.read · key.field) ++
        Event.loop (groupEvents s r p.effectiveProjection)
          (Event.upTo (fun g => fails (presentGroup s r p.projection g)) page)

end EntityQuery.Plan

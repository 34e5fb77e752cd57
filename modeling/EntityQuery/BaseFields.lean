import EntityQuery.Calendar.Instant
import EntityQuery.Uuid

/-!
The fields that every entity has: identity, ownership and the times of creation and change.
-/

namespace EntityQuery

/-- Identity, ownership and times of an entity. The identifier is nil until the entity is stored. -/
structure BaseFields where
  id : Uuid
  deleted : Bool
  creator : Uuid
  createdAt : Instant
  modifiedAt : Instant
  deriving DecidableEq, Repr

namespace BaseFields

/-- The fields of a new entity. -/
def fresh (creator : Uuid) (now : Instant) : BaseFields := ⟨Uuid.nil, false, creator, now, now⟩

end BaseFields

/-- A type of entities, which all have base fields that can be read and replaced. -/
class Entity (E : Type) where
  base : E → BaseFields
  withBase : E → BaseFields → E

/-- The identifier of an entity. -/
def Entity.id {E : Type} [Entity E] (e : E) : Uuid := (Entity.base e).id

end EntityQuery

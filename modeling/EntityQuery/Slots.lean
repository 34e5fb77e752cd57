import EntityQuery.Schema.Draft

/-!
Entities whose type is declared at run time: a row of slots. Each slot belongs to a declared field
and holds the values of one storage type; the declaration makes a draft of a schema, in which the
field of a slot reads and writes this slot only.
-/

namespace EntityQuery

/-- An entity of slots. -/
structure Slots where
  base : BaseFields
  values : List Value
  /-- What the navigations have loaded, in the order of their declaration. -/
  related : List (List String)
  /-- A mark that copies of the entity keep. -/
  label : Option Nat
  deriving Repr

instance : Entity Slots where
  base := Slots.base
  withBase e base := { e with base }

namespace Slots

/-- The value in a slot. -/
def get (e : Slots) (i : Nat) : Value := e.values.getD i .null

/-- The entity with another value in a slot. -/
def put (e : Slots) (i : Nat) (v : Value) : Slots := { e with values := e.values.set i v }

/-- The entity without what the navigation at a position has loaded. -/
def unload (i : Nat) (e : Slots) : Slots := { e with related := e.related.set i [] }

end Slots

/-- The declaration of a slot. -/
structure SlotType where
  name : String
  type : FieldType
  storage : Storage
  readOnly : Bool
  deriving DecidableEq, Repr

/-- The field of the slot at a position. A new value passes through the storage of the slot. -/
def SlotType.field (t : SlotType) (i : Nat) : Field Slots where
  name := t.name
  type := t.type
  read e := e.get i
  write? :=
    if t.readOnly then none
    else some fun e v => e.put i <$> t.storage.store t.type.nullable v

/-- The storage that fits a kind of field. -/
def FieldKind.storage : FieldKind → Storage
  | .bool => .bool
  | .int => .int
  | .float => .float
  | .decimal => .decimal
  | .text => .text
  | .uuid => .uuid
  | .binary => .bytes
  | .dateTime => .dateTime
  | .date => .date
  | .enum _ => .enum

/-- The value of a slot that was given none: null if it may be, otherwise the plainest value of
its kind. -/
def FieldType.initial (t : FieldType) : Value :=
  if t.nullable then .null
  else match t.kind with
    | .bool => .bool false
    | .int => .int 0
    | .float => .float ⟨0⟩
    | .decimal => .decimal Decimal.zero
    | .text => .text ""
    | .uuid => .uuid Uuid.nil
    | .binary => .bytes []
    | .dateTime => .dateTime Instant.epoch
    | .date => .date Instant.epoch.date
    | .enum type => match type.members with
      | m :: _ => .enum m
      | [] => .null

/-- The declaration of a type of entities with slots. -/
structure SlotsType where
  name : String
  hasBase : Bool
  slots : List SlotType
  navigations : List String
  unique : List (String × List String)
  modifiedAt : Option String
  deriving Repr

namespace SlotsType

/-- The number of fields in front of the slots. -/
def baseCount (t : SlotsType) : Nat :=
  if t.hasBase then (SchemaDraft.baseFields (E := Slots)).length else 0

/-- The draft of the schema: base fields first if there are any, then the slots, the navigations,
the unique keys and the time stamp. -/
def draft (t : SlotsType) : SchemaDraft Slots :=
  let start : SchemaDraft Slots := .empty t.name
  let start := if t.hasBase then start.addBaseFields else start
  { start with
    fields := start.fields ++ t.slots.mapIdx fun i slot => slot.field i
    navigations := t.navigations.mapIdx fun i name => ⟨name, Slots.unload i⟩
    unique := t.unique
    modifiedAt := t.modifiedAt <|> start.modifiedAt }

end SlotsType

end EntityQuery

import EntityQuery.Enumeration

/-!
The declared type of a field: a kind and whether the field may be null.
-/

namespace EntityQuery

/-- The kind of a field's values. -/
inductive FieldKind where
  | bool
  | int
  | float
  | decimal
  | text
  | uuid
  | binary
  | dateTime
  | date
  | enum (type : EnumType)
  deriving DecidableEq, Repr

namespace FieldKind

/-- The name of a kind; that of an enumeration is its own. -/
def name : FieldKind → String
  | .bool => "Bool"
  | .int => "Int"
  | .float => "Float"
  | .decimal => "Decimal"
  | .text => "Text"
  | .uuid => "Uuid"
  | .binary => "Binary"
  | .dateTime => "DateTime"
  | .date => "Date"
  | .enum type => type.name

/-- The kinds that are no enumerations. -/
def plain : List FieldKind :=
  [.bool, .int, .float, .decimal, .text, .uuid, .binary, .dateTime, .date]

/-- The kind of a name, enumerations apart. -/
def ofName? (name : String) : Option FieldKind := plain.find? fun k => k.name == name

/-- Whether values of the kind may be compared for larger and smaller. -/
def isOrdered : FieldKind → Bool
  | .bool | .uuid | .binary => false
  | _ => true

end FieldKind

/-- A kind and whether null is allowed. -/
structure FieldType where
  kind : FieldKind
  nullable : Bool
  deriving DecidableEq, Repr

namespace FieldType

/-- A type without null. -/
def required (kind : FieldKind) : FieldType := ⟨kind, false⟩

/-- A type with null. -/
def optional (kind : FieldKind) : FieldType := ⟨kind, true⟩

/-- The name of the kind, with a question mark if null is allowed. -/
def text (t : FieldType) : String :=
  if t.nullable then t.kind.name ++ "?" else t.kind.name

end FieldType

end EntityQuery

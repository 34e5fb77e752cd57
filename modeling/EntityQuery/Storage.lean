import EntityQuery.Value.Basic

/-!
What a place in memory can hold, and the passage of values into it and out of it. A value of
another kind, or a number that does not fit, is refused.
-/

namespace EntityQuery

/-- A refusal: what the place holds and what it was given. -/
structure TypeMismatch where
  expected : String
  found : String
  deriving DecidableEq, Repr

/-- The wording of a refusal. -/
def TypeMismatch.message (e : TypeMismatch) : String :=
  "expected " ++ e.expected ++ " value, found " ++ e.found

/-- The type of a place. -/
inductive Storage where
  | bool
  | int
  | int32
  | float
  | decimal
  | text
  | uuid
  | bytes
  | dateTime
  | date
  | enum
  | json
  deriving DecidableEq, Repr

namespace Storage

/-- The name of a place's type. -/
def name : Storage → String
  | .bool => "Bool"
  | .int => "Int"
  | .int32 => "Int32"
  | .float => "Float"
  | .decimal => "Decimal"
  | .text => "Text"
  | .uuid => "Uuid"
  | .bytes => "Bytes"
  | .dateTime => "DateTime"
  | .date => "Date"
  | .enum => "Enum"
  | .json => "Json"

/-- What a place holds. -/
abbrev Carrier : Storage → Type
  | .bool => Bool
  | .int => Int64
  | .int32 => Int32
  | .float => Binary64
  | .decimal => Decimal
  | .text => String
  | .uuid => Uuid
  | .bytes => List UInt8
  | .dateTime => Instant
  | .date => Date
  | .enum => EnumMember
  | .json => Json

/-- The value that a place shows. -/
def toValue : (s : Storage) → s.Carrier → Value
  | .bool, b => .bool b
  | .int, i => .int i
  | .int32, i => .int i.toInt64
  | .float, x => .float x
  | .decimal, d => .decimal d
  | .text, t => .text t
  | .uuid, u => .uuid u
  | .bytes, b => .bytes b
  | .dateTime, t => .dateTime t
  | .date, d => .date d
  | .enum, m => .enum m
  | .json, j => .json j

/-- What a place takes from a value. -/
def ofValue : (s : Storage) → Value → Except TypeMismatch s.Carrier
  | .bool, .bool b => .ok b
  | .int, .int i => .ok i
  | .int32, .int i =>
    if i.toInt32.toInt64 = i then .ok i.toInt32 else .error ⟨"Int32", "Int"⟩
  | .float, .float x => .ok x
  | .decimal, .decimal d => .ok d
  | .text, .text t => .ok t
  | .uuid, .uuid u => .ok u
  | .bytes, .bytes b => .ok b
  | .dateTime, .dateTime t => .ok t
  | .date, .date d => .ok d
  | .enum, .enum m => .ok m
  | .json, .json j => .ok j
  | s, v => .error ⟨s.name, v.kindName⟩

/-- What a place that may be empty shows. -/
def toValue? (s : Storage) : Option s.Carrier → Value
  | none => .null
  | some x => s.toValue x

/-- What a place that may be empty takes from a value. -/
def ofValue? (s : Storage) : Value → Except TypeMismatch (Option s.Carrier)
  | .null => .ok none
  | v => some <$> s.ofValue v

/-- The value that a place shows after it was given `v`. -/
def store (s : Storage) (nullable : Bool) (v : Value) : Except TypeMismatch Value :=
  if nullable then s.toValue? <$> s.ofValue? v else s.toValue <$> s.ofValue v

end Storage

end EntityQuery

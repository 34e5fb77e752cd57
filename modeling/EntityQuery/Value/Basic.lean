import EntityQuery.Calendar.Instant
import EntityQuery.Enumeration
import EntityQuery.Json.Basic
import EntityQuery.Number.Decimal
import EntityQuery.Uuid

/-!
Values of entity fields. Values of one kind are compared with each other, values of different
kinds never; null is a value of its own that compares with nothing and sorts before the rest.
-/

namespace EntityQuery

/-- A value of a field. -/
inductive Value where
  | null
  | bool (b : Bool)
  | int (i : Int64)
  | float (x : Binary64)
  | decimal (d : Decimal)
  | text (s : String)
  | uuid (u : Uuid)
  | bytes (b : List UInt8)
  | dateTime (t : Instant)
  | date (d : Date)
  | enum (m : EnumMember)
  | json (j : Json)
  deriving Repr

instance : Inhabited Value := ⟨.null⟩

namespace Value

/-- Whether a value is null. -/
def isNull : Value → Bool
  | .null => true
  | _ => false

/-- The content of a text value. -/
def asText? : Value → Option String
  | .text s => some s
  | _ => none

/-- The name of a value's kind. -/
def kindName : Value → String
  | .null => "Null"
  | .bool _ => "Bool"
  | .int _ => "Int"
  | .float _ => "Float"
  | .decimal _ => "Decimal"
  | .text _ => "Text"
  | .uuid _ => "Uuid"
  | .bytes _ => "Binary"
  | .dateTime _ => "DateTime"
  | .date _ => "Date"
  | .enum _ => "Enum"
  | .json _ => "Json"

/-- The order of two values of one kind. Documents have none, and members of enumerations are
ordered by their ordinals. -/
def compare? : Value → Value → Option Ordering
  | .bool a, .bool b => some (compare a b)
  | .int a, .int b => some (compare a b)
  | .float a, .float b => a.compare? b
  | .decimal a, .decimal b => some (compare a b)
  | .text a, .text b => some (compare a b)
  | .uuid a, .uuid b => some (compare a b)
  | .bytes a, .bytes b => some (compare a b)
  | .dateTime a, .dateTime b => some (compare a b)
  | .date a, .date b => some (compare a b)
  | .enum a, .enum b => some (compare a.ordinal b.ordinal)
  | _, _ => none

/-- The order used for sorting: null before everything, and a tie where nothing is defined. -/
def sortCompare (a b : Value) : Ordering :=
  match a.isNull, b.isNull with
  | true, true => .eq
  | true, false => .lt
  | false, true => .gt
  | false, false => (a.compare? b).getD .eq

/-- Equality of values. Numbers are equal by value, members of enumerations by name and ordinal. -/
def equal : Value → Value → Bool
  | .null, .null => true
  | .bool a, .bool b => a == b
  | .int a, .int b => a == b
  | .float a, .float b => a.equal b
  | .decimal a, .decimal b => a.equal b
  | .text a, .text b => a == b
  | .uuid a, .uuid b => a == b
  | .bytes a, .bytes b => a == b
  | .dateTime a, .dateTime b => a == b
  | .date a, .date b => a == b
  | .enum a, .enum b => a == b
  | .json a, .json b => a.equal b
  | _, _ => false

end Value

end EntityQuery

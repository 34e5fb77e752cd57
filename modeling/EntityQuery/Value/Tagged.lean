import EntityQuery.Literal
import EntityQuery.Value.Text

/-!
A JSON form of values that keeps their kinds: an object whose only key names the kind, and null for
null. The plain form of a value forgets its kind; this one is read back to the value it came from.
-/

namespace EntityQuery

/-- A member of an enumeration as name and ordinal. -/
def EnumMember.toJson (m : EnumMember) : Json := .array [.string m.name, .ofInt64 m.ordinal]

/-- The integer that a number of a document is. -/
def Json.asInt64? : Json → Option Int64
  | .number (.natural n) => some n.toInt64
  | .number (.negative n) => some n
  | _ => none

/-- The member of an enumeration that a name and an ordinal make. -/
def EnumMember.ofJson? : Json → Option EnumMember
  | .array [.string name, ordinal] => ordinal.asInt64?.map fun n => ⟨name, n⟩
  | _ => none

namespace Value

/-- The tagged form of a value. -/
def toTagged : Value → Json
  | .null => .null
  | .bool b => .object [("bool", .bool b)]
  | .int i => .object [("int", .ofInt64 i)]
  | .float x => .object [("float", .string x.text)]
  | .decimal d => .object [("decimal", .string d.text)]
  | .text s => .object [("text", .string s)]
  | .uuid u => .object [("uuid", .string u.text)]
  | .bytes b => .object [("bytes", .string (Base64.encode b))]
  | .dateTime t => .object [("datetime", .string (t.text .shortest))]
  | .date d => .object [("date", .string d.text)]
  | .enum m => .object [("enum", m.toJson)]
  | .json j => .object [("json", .string j.text)]

/-- The error for a document that is not a tagged value. -/
def notTagged : QueryError := .invalidArgument (.other "a tagged value is required")

/-- The value of a tagged form. Whatever JSON has no form of its own for is read as a literal, and
a document stands for itself; null may also be the key of an object. -/
def ofTagged (j : Json) : Except QueryError Value :=
  let literal (kind : FieldKind) (text : String) : Except QueryError Value :=
    Literal.coerce (.required kind) (some text)
  match j with
  | .null | .object [("null", _)] => .ok .null
  | .object [("bool", .bool b)] => .ok (.bool b)
  | .object [("int", n)] => (n.asInt64?.map Value.int).elim (.error notTagged) .ok
  | .object [("float", .string s)] => literal .float s
  | .object [("decimal", .string s)] => literal .decimal s
  | .object [("text", .string s)] => .ok (.text s)
  | .object [("uuid", .string s)] => literal .uuid s
  | .object [("bytes", .string s)] => literal .binary s
  | .object [("datetime", .string s)] => literal .dateTime s
  | .object [("date", .string s)] => literal .date s
  | .object [("enum", m)] => ((EnumMember.ofJson? m).map Value.enum).elim (.error notTagged) .ok
  | .object [("json", j)] => .ok (.json j)
  | _ => .error notTagged

end Value

end EntityQuery

import EntityQuery.Json.Printer
import EntityQuery.Text.Base64
import EntityQuery.Value.Basic

/-!
Values as JSON for transfer, and as text for descriptions of queries.
-/

namespace EntityQuery.Value

/-- The JSON form of a value: text for everything that JSON has no form of its own for, and null
for a float that is not finite. -/
def toJson : Value → Json
  | .null => .null
  | .bool b => .bool b
  | .int i => Json.ofInt64 i
  | .float x => if x.isFinite then .number (.float x) else .null
  | .decimal d => .string d.text
  | .text s => .string s
  | .uuid u => .string u.text
  | .bytes b => .string (Base64.encode b)
  | .dateTime t => .string (t.text .shortest)
  | .date d => .string d.text
  | .enum m => .string m.name
  | .json j => j

/-- The text of a value in a description. Text stands between quotes as it is; of bytes only the
number is told. -/
def describe : Value → String
  | .null => "null"
  | .text s => "\"" ++ s ++ "\""
  | .enum m => m.name
  | .bytes b => "<" ++ toString b.length ++ " bytes>"
  | v => v.toJson.text

end EntityQuery.Value

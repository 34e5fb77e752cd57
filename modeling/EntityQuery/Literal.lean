import EntityQuery.Error
import EntityQuery.FieldType
import EntityQuery.Text.Blank

/-!
Literals of queries. Every literal arrives as text and becomes a value of exactly the kind of the
field it is compared with or assigned to. Blanks around it do not count, except in text.
-/

namespace EntityQuery.Literal

/-- `true` and `false`, in any case. -/
def boolOf (s : List Char) : Except LiteralProblem Bool :=
  let word := s.map Text.foldChar
  if word = "true".toList then .ok true
  else if word = "false".toList then .ok false
  else .error .bool

/-- A member by its ordinal if the text is an integer, otherwise by its name. -/
def memberOf (type : EnumType) (s : List Char) : Except LiteralProblem EnumMember :=
  match Whole.readInt64 s with
  | .ok ordinal =>
    match type.byOrdinal? ordinal with
    | some m => .ok m
    | none => .error (.noOrdinal ordinal type.name)
  | .error _ =>
    match type.byName? (String.ofList s) with
    | some m => .ok m
    | none => .error (.noMember (String.ofList s) type.name)

/-- The value of a kind that a text stands for. -/
def valueOf (kind : FieldKind) (text : String) : Except LiteralProblem Value :=
  let s := Text.trimChars text.toList
  match kind with
  | .text => .ok (.text text)
  | .bool => Value.bool <$> boolOf s
  | .int => ((Whole.readInt64 s).mapError .whole).map .int
  | .float => ((FloatLiteral.read s).mapError .float).map .float
  | .decimal => ((Decimal.read s).mapError .decimal).map .decimal
  | .uuid => ((Uuid.read (String.ofList s)).mapError .uuid).map .uuid
  | .binary => ((Base64.decode (String.ofList s)).mapError .bytes).map .bytes
  | .date => ((Calendar.readDate s).mapError .date).map .date
  | .dateTime =>
    match Calendar.readInstant s with
    | some t => .ok (.dateTime t)
    | none => .error .dateTime
  | .enum type => Value.enum <$> memberOf type s

/-- The value of a type that a literal stands for. Only a type with null takes the literal null. -/
def coerce (target : FieldType) : (literal : Option String) → Except QueryError Value
  | none =>
    if target.nullable then .ok .null
    else .error (.invalidValue none target.text .nullRefused)
  | some text => (valueOf target.kind text).mapError (.invalidValue (some text) target.text)

end EntityQuery.Literal

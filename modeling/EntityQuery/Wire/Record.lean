import EntityQuery.Error
import EntityQuery.Number.Shortest
import EntityQuery.Text.Debug

/-!
Reading of records from JSON. A record is written as an object or as the array of its fields in
order. A record reader is put together from field readers: fields that are absent take their
default if they have one, members of other names are ignored, and the first failure in the order
of the members wins.
-/

namespace EntityQuery.Wire

/-- What was found where something else was expected. -/
inductive Found where
  | null
  | bool (b : Bool)
  | integer (i : Int)
  | float (x : Binary64)
  | string (s : String)
  | sequence
  | map
  deriving DecidableEq, Repr

/-- What a document is. -/
def Found.ofJson : Json → Found
  | .null => .null
  | .bool b => .bool b
  | .number (.natural n) => .integer n.toNat
  | .number (.negative n) => .integer n.toInt
  | .number (.float x) => .float x
  | .string s => .string s
  | .array _ => .sequence
  | .object _ => .map

/-- The wording of what was found. -/
def Found.text : Found → String
  | .null => "null"
  | .bool b => "boolean `" ++ toString b ++ "`"
  | .integer i => "integer `" ++ String.ofList (Text.decimalInt i) ++ "`"
  | .float x => "floating point `" ++ x.text ++ "`"
  | .string s => "string " ++ Text.debugQuote s
  | .sequence => "sequence"
  | .map => "map"

/-- Why a document is not of the wanted form. -/
inductive Problem where
  | missingField (name : String)
  | duplicateField (name : String)
  | invalidType (found : Found) (expected : String)
  | invalidValue (found : Found) (expected : String)
  /-- An array that ends before a field without default. -/
  | tooShort (length : Nat) (record : String) (fields : Nat)
  | tooLong (length : Nat)
  | unknownVariant (name : String) (known : List String)
  | operator (e : QueryError)
  | uuid (p : Uuid.Problem)
  | instant (p : Calendar.Problem)
  deriving DecidableEq, Repr

/-- A name between backticks. -/
def ticked (name : String) : String := "`" ++ name ++ "`"

/-- The wording of a problem. -/
def Problem.message : Problem → String
  | .missingField name => "missing field " ++ ticked name
  | .duplicateField name => "duplicate field " ++ ticked name
  | .invalidType found expected =>
    "invalid type: " ++ found.text ++ ", expected " ++ expected
  | .invalidValue found expected =>
    "invalid value: " ++ found.text ++ ", expected " ++ expected
  | .tooShort n record fields =>
    "invalid length " ++ toString n ++ ", expected struct " ++ record ++ " with " ++
      toString fields ++ (if fields = 1 then " element" else " elements")
  | .tooLong n => "invalid length " ++ toString n ++ ", expected fewer elements in array"
  | .unknownVariant name known =>
    "unknown variant " ++ ticked name ++ ", expected " ++ " or ".intercalate (known.map ticked)
  | .operator e => e.message
  | .uuid p => "UUID parsing failed: " ++ p.message
  | .instant p => p.message

/-- The error of a request that is not of the wanted form. -/
def Problem.toStorageError (p : Problem) : StorageError :=
  .backend (.serialization p.message)

/-- A reader of documents. -/
abbrev Decoder (α : Type) := Json → Except Problem α

/-- The refusal of a document. -/
def refuse {α : Type} (expected : String) (j : Json) : Except Problem α :=
  .error (.invalidType (Found.ofJson j) expected)

/-! ### Single values -/

/-- A text. -/
def string : Decoder String
  | .string s => .ok s
  | j => refuse "a string" j

/-- True or false. -/
def bool : Decoder Bool
  | .bool b => .ok b
  | j => refuse "a boolean" j

/-- A natural number below a bound. -/
def natural (bound : Nat) (expected : String) : Decoder Nat
  | .number (.natural n) =>
    if n.toNat < bound then .ok n.toNat
    else .error (.invalidValue (.integer n.toNat) expected)
  | .number (.negative n) => .error (.invalidValue (.integer n.toInt) expected)
  | j => refuse expected j

/-- A number of 32 bits. -/
def uint32 : Decoder UInt32 := fun j => UInt32.ofNat <$> natural UInt32.size "u32" j

/-- A number of 64 bits, called `expected` in messages. -/
def uint64 (expected : String) : Decoder UInt64 := fun j =>
  UInt64.ofNat <$> natural UInt64.size expected j

/-- Null or a value. -/
def optional {α : Type} (decode : Decoder α) : Decoder (Option α)
  | .null => .ok none
  | j => some <$> decode j

/-- An array of values. -/
def list {α : Type} (decode : Decoder α) : Decoder (List α)
  | .array items => items.mapM decode
  | j => refuse "a sequence" j

/-! ### Records -/

/-- A field of a record: its name, other names it goes by, the form of its value, and the value it
has if it is absent. -/
structure FieldReader (α : Type) where
  name : String
  aliases : List String
  decode : Decoder α
  default : Option α

/-- A field that has to be there. -/
def FieldReader.required {α : Type} (name : String) (decode : Decoder α) : FieldReader α :=
  ⟨name, [], decode, none⟩

/-- A field that may be absent. -/
def FieldReader.withDefault {α : Type} (name : String) (decode : Decoder α) (default : α) :
    FieldReader α :=
  ⟨name, [], decode, some default⟩

/-- A field that may be absent or null. -/
def FieldReader.maybe {α : Type} (name : String) (decode : Decoder α) : FieldReader (Option α) :=
  .withDefault name (optional decode) none

/-- Whether a member of the given name belongs to the field. -/
def FieldReader.goesBy {α : Type} (f : FieldReader α) (name : String) : Bool :=
  name == f.name || f.aliases.contains name

/-- A reader of the fields of a record. `State` holds the fields met so far. -/
structure RecordReader (α : Type) where
  State : Type
  start : State
  fields : Nat
  /-- Takes a member; `none` if no field goes by its name. -/
  member : String → Json → State → Except Problem (Option State)
  /-- The record of the fields met. -/
  finish : State → Except Problem α
  /-- The record of items given in order, and the items left. The first argument is the number of
  fields before these, the second makes the error for an array that is too short. -/
  fromItems : Nat → (Nat → Problem) → List Json → Except Problem (α × List Json)

namespace RecordReader

/-- A record of one field. -/
def field {α : Type} (f : FieldReader α) : RecordReader α where
  State := Option α
  start := none
  fields := 1
  member name j state :=
    if f.goesBy name then
      if state.isSome then .error (.duplicateField f.name)
      else (fun x => some (some x)) <$> f.decode j
    else .ok none
  finish state :=
    match state <|> f.default with
    | some x => .ok x
    | none => .error (.missingField f.name)
  fromItems index short items :=
    match items, f.default with
    | j :: rest, _ => (·, rest) <$> f.decode j
    | [], some x => .ok (x, [])
    | [], none => .error (short index)

/-- The fields of two records, one after the other. -/
def and {α β : Type} (r : RecordReader α) (s : RecordReader β) : RecordReader (α × β) where
  State := r.State × s.State
  start := (r.start, s.start)
  fields := r.fields + s.fields
  member name j state := do
    match ← r.member name j state.1 with
    | some first => .ok (some (first, state.2))
    | none =>
      match ← s.member name j state.2 with
      | some second => .ok (some (state.1, second))
      | none => .ok none
  finish state := do
    let x ← r.finish state.1
    let y ← s.finish state.2
    .ok (x, y)
  fromItems index short items := do
    let (x, items) ← r.fromItems index short items
    let (y, items) ← s.fromItems (index + r.fields) short items
    .ok ((x, y), items)

/-- A record in another shape. -/
def map {α β : Type} (f : α → β) (r : RecordReader α) : RecordReader β where
  State := r.State
  start := r.start
  fields := r.fields
  member := r.member
  finish state := f <$> r.finish state
  fromItems index short items :=
    (fun p => (f p.1, p.2)) <$> r.fromItems index short items

/-- The fields met after some members. -/
def members {α : Type} (r : RecordReader α) :
    List (String × Json) → r.State → Except Problem r.State
  | [], state => .ok state
  | (name, j) :: rest, state => do
    match ← r.member name j state with
    | some state => r.members rest state
    | none => r.members rest state

/-- A record of the given name, written as an object or as an array. -/
def decode {α : Type} (r : RecordReader α) (name : String) : Decoder α
  | .object members => do r.finish (← r.members members r.start)
  | .array items => do
    let (x, rest) ← r.fromItems 0 (fun n => .tooShort n name r.fields) items
    if rest = [] then .ok x else .error (.tooLong items.length)
  | j => refuse ("struct " ++ name) j

end RecordReader

end EntityQuery.Wire

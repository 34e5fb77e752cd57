import EntityQuery.BaseFields
import EntityQuery.Error
import EntityQuery.FieldType

/-!
Schemas: what a type of entities declares. A schema lists named and typed fields with the means to
read and maybe write them, the navigations that can be unloaded, the unique keys, and the field
that holds the time of the last change. Names of properties are resolved against it once; after
that a field is known by its position.
-/

namespace EntityQuery

/-- A field of the entities of type `E`. Fields without `write?` are read-only. -/
structure Field (E : Type) where
  name : String
  type : FieldType
  read : E → Value
  write? : Option (E → Value → Except TypeMismatch E)

namespace Field

variable {E : Type}

/-- What a position without field is taken for: it reads as null and cannot be written. -/
def missing : Field E := ⟨"", .optional .text, fun _ => .null, none⟩

/-- Whether the field can be written. -/
def isWritable (f : Field E) : Bool := f.write?.isSome

/-- The entity with another value in the field. -/
def write (f : Field E) (e : E) (v : Value) : Except TypeMismatch E :=
  match f.write? with
  | some set => set e v
  | none => .error ⟨"writable field", v.kindName⟩

end Field

/-- A resolved field: its position in the schema and its declared name. -/
structure FieldRef where
  index : Nat
  name : String
  deriving DecidableEq, Repr

/-- A relation to other entities that is loaded on request only; `unload` empties it. -/
structure Navigation (E : Type) where
  name : String
  unload : E → E

/-- Fields whose values, taken together, no two entities share. -/
structure UniqueKey where
  name : String
  fields : List FieldRef
  deriving DecidableEq, Repr

/-- The declaration of a type of entities. -/
structure Schema (E : Type) where
  name : String
  fields : List (Field E)
  navigations : List (Navigation E)
  unique : List UniqueKey
  /-- The time of the last change. -/
  modifiedAt : Option FieldRef

namespace Schema

variable {E : Type}

/-- The field at a resolved position, if the position lies inside the table. -/
def field? (s : Schema E) (f : FieldRef) : Option (Field E) := s.fields[f.index]?

/-- The field at a resolved position. -/
def field (s : Schema E) (f : FieldRef) : Field E := (s.field? f).getD .missing

/-- The declared type of a resolved field. -/
def typeOf (s : Schema E) (f : FieldRef) : FieldType := (s.field f).type

/-- The value of a resolved field. -/
def read (s : Schema E) (e : E) (f : FieldRef) : Value := (s.field f).read e

/-- The position of the field that a name means: one spelled in the same way, otherwise one that
differs in ASCII case only. -/
def position? (s : Schema E) (name : String) : Option Nat :=
  s.fields.findIdx? (fun f => f.name == name) <|>
    s.fields.findIdx? fun f => Text.sameFolded f.name name

/-- The field that a name means. -/
def resolve (s : Schema E) (name : String) : Except QueryError FieldRef :=
  match s.position? name with
  | some i => .ok ⟨i, (s.fields.getD i .missing).name⟩
  | none => .error (.unknownProperty s.name name)

/-- The fields in the order of declaration. -/
def refs (s : Schema E) : List FieldRef :=
  s.fields.mapIdx fun i f => ⟨i, f.name⟩

/-- The navigation that a name means, ASCII case not counting. -/
def navigation (s : Schema E) (name : String) : Except QueryError (Navigation E) :=
  match s.navigations.find? fun n => Text.sameFolded n.name name with
  | some n => .ok n
  | none => .error (.unknownProperty s.name name)

/-- The declared names of the navigations to load, each once, in the order of first mention. -/
def includes (s : Schema E) (names : List String) : Except QueryError (List String) :=
  names.foldlM
    (fun known name => do
      let n ← s.navigation name
      return if known.contains n.name then known else known ++ [n.name])
    []

/-- The entity without the navigations that are not listed. -/
def unloadExcept (s : Schema E) (included : List String) (e : E) : E :=
  s.navigations.foldl (fun e n => if included.contains n.name then e else n.unload e) e

end Schema

end EntityQuery

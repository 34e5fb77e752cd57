import EntityQuery.Schema.Basic

/-!
Drafts of schemas. A draft names the fields of its unique keys and of its time stamp as text;
`SchemaDraft.build` resolves these names and refuses contradictory declarations.
-/

namespace EntityQuery

/-- A schema as declared. -/
structure SchemaDraft (E : Type) where
  name : String
  fields : List (Field E)
  navigations : List (Navigation E)
  /-- The names of the unique keys and of their fields. -/
  unique : List (String × List String)
  modifiedAt : Option String

namespace SchemaDraft

variable {E : Type}

/-- The declaration of nothing. -/
def empty (name : String) : SchemaDraft E := ⟨name, [], [], [], none⟩

/-- One more field. -/
def addField (d : SchemaDraft E) (f : Field E) : SchemaDraft E :=
  { d with fields := d.fields ++ [f] }

/-- One more navigation. -/
def addNavigation (d : SchemaDraft E) (n : Navigation E) : SchemaDraft E :=
  { d with navigations := d.navigations ++ [n] }

/-- One more unique key. -/
def addUnique (d : SchemaDraft E) (name : String) (fields : List String) : SchemaDraft E :=
  { d with unique := d.unique ++ [(name, fields)] }

/-- Another field for the time of the last change. -/
def setModifiedAt (d : SchemaDraft E) (name : String) : SchemaDraft E :=
  { d with modifiedAt := some name }

/-- The fields that all entities have. The identifier and the creator are read-only. -/
def baseFields [Entity E] : List (Field E) :=
  let base (e : E) : BaseFields := Entity.base e
  [{ name := "Id"
     type := .required .uuid
     read e := .uuid (base e).id
     write? := none },
   { name := "IsDeleted"
     type := .required .bool
     read e := .bool (base e).deleted
     write? := some fun e v => do
       return Entity.withBase e { base e with deleted := ← Storage.ofValue .bool v } },
   { name := "CreatorId"
     type := .required .uuid
     read e := .uuid (base e).creator
     write? := none },
   { name := "CreatedAt"
     type := .required .dateTime
     read e := .dateTime (base e).createdAt
     write? := some fun e v => do
       return Entity.withBase e { base e with createdAt := ← Storage.ofValue .dateTime v } },
   { name := "ModifiedAt"
     type := .required .dateTime
     read e := .dateTime (base e).modifiedAt
     write? := some fun e v => do
       return Entity.withBase e { base e with modifiedAt := ← Storage.ofValue .dateTime v } }]

/-- The fields that all entities have, and their time of the last change. -/
def addBaseFields [Entity E] (d : SchemaDraft E) : SchemaDraft E :=
  { d with fields := d.fields ++ baseFields, modifiedAt := some "ModifiedAt" }

/-- The first name that repeats an earlier one up to ASCII case. -/
def repeated? : (earlier : List String) → List String → Option String
  | _, [] => none
  | earlier, name :: rest =>
    if earlier.any fun other => Text.sameFolded other name then some name
    else repeated? (name :: earlier) rest

/-- A unique key with resolved fields. -/
def key (s : Schema E) (name : String) (fields : List String) : Except QueryError UniqueKey :=
  if fields.isEmpty then .error (.invalidArgument (.emptyUniqueKey name))
  else return ⟨name, ← fields.mapM s.resolve⟩

/-- The field for the time of the last change, which has to hold times. -/
def stamp (s : Schema E) (name : String) : Except QueryError FieldRef := do
  let f ← s.resolve name
  if (s.typeOf f).kind = .dateTime then .ok f
  else .error (.invalidArgument (.stampKind name))

/-- The schema of a draft. Field names differ by more than ASCII case, unique keys name at least
one field and only declared ones, and so does the time stamp. -/
def build (d : SchemaDraft E) : Except QueryError (Schema E) :=
  match repeated? [] (d.fields.map Field.name) with
  | some name => .error (.invalidArgument (.duplicateField name d.name))
  | none => do
    let plain : Schema E := ⟨d.name, d.fields, d.navigations, [], none⟩
    let unique ← d.unique.mapM fun (name, fields) => key plain name fields
    let modifiedAt ← d.modifiedAt.mapM (stamp plain)
    return { plain with unique, modifiedAt }

/-- The wording of a refused declaration where a schema is taken for granted. -/
def refusal (e : QueryError) : String := "invalid entity schema: " ++ e.message

end SchemaDraft

end EntityQuery

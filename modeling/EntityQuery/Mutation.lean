import EntityQuery.Literal
import EntityQuery.Request.Basic
import EntityQuery.Schema.Basic
import EntityQuery.Value.Text

/-!
Mutations: assignments of constants to fields, applied to an entity in their order. No field is
assigned twice, and read-only fields are not assigned.
-/

namespace EntityQuery

/-- A field and its new value. -/
structure Assignment where
  field : FieldRef
  value : Value
  deriving Repr

/-- Assignments in order. -/
structure Mutation where
  assignments : List Assignment
  deriving Repr

namespace Mutation

variable {E : Type}

/-- The mutation that changes nothing. -/
def empty : Mutation := ⟨[]⟩

/-- Whether nothing is assigned. -/
def isEmpty (m : Mutation) : Bool := m.assignments.isEmpty

/-- The mutation with one more assignment. -/
def set (s : Schema E) (m : Mutation) (property : String) (literal : Option String) :
    Except QueryError Mutation := do
  let f ← s.resolve property
  let field := s.field f
  if !field.isWritable then
    .error (.invalidArgument (.readOnly f.name s.name))
  if m.assignments.any fun a => a.field == f then
    .error (.invalidArgument (.assignedTwice f.name))
  return ⟨m.assignments ++ [⟨f, ← Literal.coerce field.type literal⟩]⟩

/-- The mutation of a list of changes, which has to change something. -/
def ofChanges (s : Schema E) (changes : List PropertyChange) : Except QueryError Mutation :=
  if changes.isEmpty then .error (.invalidArgument .emptyChange)
  else changes.foldlM (fun m c => m.set s c.property c.value) empty

/-- An entity after one assignment. -/
def assign (s : Schema E) (e : E) (a : Assignment) : Except QueryError E :=
  let field := s.field a.field
  (field.write e a.value).mapError fun mismatch =>
    .invalidValue none field.type.text (.mismatch mismatch)

/-- An entity after some assignments. At the first value that a field refuses the result is the
error and the entity as it is by then. -/
def run (s : Schema E) (e : E) : List Assignment → Except (QueryError × E) E
  | [] => .ok e
  | a :: rest =>
    match assign s e a with
    | .ok e => run s e rest
    | .error problem => .error (problem, e)

/-- An entity after all assignments. -/
def apply (s : Schema E) (m : Mutation) (e : E) : Except QueryError E :=
  (run s e m.assignments).mapError Prod.fst

/-- The text of a mutation. -/
def describe (m : Mutation) : String :=
  "SET " ++ ", ".intercalate (m.assignments.map fun a => a.field.name ++ " = " ++ a.value.describe)

end Mutation

end EntityQuery

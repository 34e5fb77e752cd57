import EntityQuery.Calendar.Reading
import EntityQuery.Json.Reader
import EntityQuery.Number.Decimal
import EntityQuery.Number.FloatLiteral
import EntityQuery.Storage
import EntityQuery.Text.Base64
import EntityQuery.Uuid

/-!
What can go wrong, from a literal that has no value to a backend that is not there. Errors are
constructors; `message` gives each its wording, and `ErrorClass` tells a caller how to treat it.
-/

namespace EntityQuery

/-! ### Queries -/

/-- Why a literal has no value of the wanted type. -/
inductive LiteralProblem where
  | nullRefused
  | bool
  | whole (p : Whole.Problem)
  | float (p : FloatLiteral.Problem)
  | decimal (p : Decimal.Problem)
  | uuid (p : Uuid.Problem)
  | bytes (p : Base64.Problem)
  | date (p : Calendar.Problem)
  | dateTime
  /-- No member of the enumeration has the ordinal. -/
  | noOrdinal (ordinal : Int64) (type : String)
  /-- No member of the enumeration has the name. -/
  | noMember (name type : String)
  /-- A substring test without a substring. -/
  | needleNull
  /-- A value that the field's place refuses. -/
  | mismatch (e : TypeMismatch)
  | other (text : String)
  deriving DecidableEq, Repr

/-- The wording of a literal's problem. -/
def LiteralProblem.message : LiteralProblem → String
  | .nullRefused => "null is not allowed for a non-nullable field"
  | .bool => "expected 'true' or 'false'"
  | .whole p => p.message
  | .float p => p.message
  | .decimal p => p.message
  | .uuid p => p.message
  | .bytes p => p.message
  | .date p => p.message
  | .dateTime => "expected an RFC 3339 timestamp or 'YYYY-MM-DD[ HH:MM:SS]'"
  | .noOrdinal ordinal type =>
    String.ofList (Text.decimalInt ordinal.toInt) ++ " is not a declared member of " ++ type
  | .noMember name type => "'" ++ name ++ "' is not a member of " ++ type
  | .needleNull => "Contains requires a non-null value"
  | .mismatch e => e.message
  | .other text => text

/-- Why a description or a declaration is contradictory. -/
inductive ArgumentProblem where
  | emptyFilterList
  | emptySelection
  | selectedTwice (name : String)
  | readOnly (field entity : String)
  | assignedTwice (field : String)
  | emptyChange
  | duplicateField (field entity : String)
  | emptyUniqueKey (name : String)
  | stampKind (name : String)
  | projectedTwice
  | other (text : String)
  deriving DecidableEq, Repr

/-- The wording of a contradiction. -/
def ArgumentProblem.message : ArgumentProblem → String
  | .emptyFilterList => "a combined filter requires at least one filter"
  | .emptySelection => "a selector requires at least one property"
  | .selectedTwice name => "property '" ++ name ++ "' is selected more than once"
  | .readOnly field entity =>
    "property '" ++ field ++ "' of entity '" ++ entity ++ "' is read-only"
  | .assignedTwice field => "property '" ++ field ++ "' is assigned more than once"
  | .emptyChange => "an update requires at least one property"
  | .duplicateField field entity =>
    "duplicate field '" ++ field ++ "' on entity '" ++ entity ++ "'"
  | .emptyUniqueKey name => "unique constraint '" ++ name ++ "' names no fields"
  | .stampKind name => "modification timestamp '" ++ name ++ "' must be a DateTime field"
  | .projectedTwice => "grouped plan has both a representative and a plan projection"
  | .other text => text

/-- Why a property cannot be projected. -/
inductive ProjectionProblem where
  /-- Only text can hold a document. -/
  | notText (kind : String)
  | document (e : Json.Error)
  | payload (kind : String)
  | other (text : String)
  deriving DecidableEq, Repr

/-- The wording of a projection's problem. -/
def ProjectionProblem.message : ProjectionProblem → String
  | .notText kind => "structured decoding needs a Text field, found " ++ kind
  | .document e => e.message
  | .payload kind => "expected a Text payload, found " ++ kind
  | .other text => text

/-- Errors of descriptions. The same description always fails in the same way. -/
inductive QueryError where
  | unknownProperty (entity property : String)
  | unsupportedOperator (operator property fieldType allowed : String)
  | invalidValue (literal : Option String) (target : String) (problem : LiteralProblem)
  | invalidArgument (problem : ArgumentProblem)
  | projection (property : String) (problem : ProjectionProblem)
  deriving DecidableEq, Repr

/-- The wording of an error. -/
def QueryError.message : QueryError → String
  | .unknownProperty entity property =>
    "unknown property '" ++ property ++ "' on entity '" ++ entity ++ "'"
  | .unsupportedOperator operator property fieldType allowed =>
    "operator '" ++ operator ++ "' is not supported for property '" ++ property ++
      "' of type '" ++ fieldType ++ "'; supported operators are: " ++ allowed
  | .invalidValue literal target problem =>
    let shown := match literal with
      | some text => "'" ++ text ++ "'"
      | none => "null"
    "failed to convert value " ++ shown ++ " to type '" ++ target ++ "': " ++ problem.message
  | .invalidArgument problem => "invalid argument: " ++ problem.message
  | .projection property problem =>
    "projection of '" ++ property ++ "' failed: " ++ problem.message

/-! ### Backends -/

/-- Errors of a backend. -/
inductive BackendError where
  | unavailable (backend message : String)
  | poolExhausted (backend : String)
  | unsupportedCapability (backend capability : String)
  | uniqueViolation (backend entity key : String)
  | interrupted (backend : String)
  | internal (backend message : String)
  | execution (message : String)
  | serialization (message : String)
  deriving DecidableEq, Repr

/-- The wording of an error. -/
def BackendError.message : BackendError → String
  | .unavailable backend _ => "backend unavailable: " ++ backend
  | .poolExhausted backend => "session pool exhausted for " ++ backend
  | .unsupportedCapability backend capability =>
    "capability '" ++ capability ++ "' not supported by " ++ backend
  | .uniqueViolation backend _ key =>
    "unique constraint '" ++ key ++ "' violated in " ++ backend
  | .interrupted backend => "execution interrupted in " ++ backend
  | .internal backend message => "internal error in " ++ backend ++ ": " ++ message
  | .execution message => "query execution failed: " ++ message
  | .serialization message => "serialization error: " ++ message

/-! ### Operations -/

/-- Errors of an operation on stored entities. -/
inductive StorageError where
  | query (e : QueryError)
  | notFound (entity id : String)
  | conflict (entity key : String)
  | cancelled
  | backend (e : BackendError)
  deriving DecidableEq, Repr

/-- The wording of an error. -/
def StorageError.message : StorageError → String
  | .query e => e.message
  | .notFound entity id => "entity not found: " ++ entity ++ "/" ++ id
  | .conflict entity key =>
    "conflict on " ++ entity ++ ": unique constraint '" ++ key ++ "' violated"
  | .cancelled => "operation cancelled"
  | .backend e => e.message

/-- How a caller should treat an error. -/
inductive ErrorClass where
  | badRequest
  | notFound
  | conflict
  | cancelled
  | internal
  deriving DecidableEq, Repr

/-- The name of a class. -/
def ErrorClass.name : ErrorClass → String
  | .badRequest => "bad-request"
  | .notFound => "not-found"
  | .conflict => "conflict"
  | .cancelled => "cancelled"
  | .internal => "internal"

/-- The class of an error. -/
def StorageError.errorClass : StorageError → ErrorClass
  | .query _ => .badRequest
  | .notFound .. => .notFound
  | .conflict .. => .conflict
  | .cancelled => .cancelled
  | .backend _ => .internal

/-- Whether the caller's input is to blame. -/
def StorageError.isClientError (e : StorageError) : Bool :=
  match e.errorClass with
  | .badRequest | .notFound | .conflict => true
  | .cancelled | .internal => false

end EntityQuery

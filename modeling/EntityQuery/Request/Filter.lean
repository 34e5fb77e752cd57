import EntityQuery.Error
import EntityQuery.Text.Blank

/-!
Descriptions of conditions: a filter compares one property with a literal, a filter list joins
filters by one connective.
-/

namespace EntityQuery

/-- The comparisons of a filter. -/
inductive Operator where
  | equal
  | notEqual
  | greaterThan
  | greaterThanOrEqual
  | lessThan
  | lessThanOrEqual
  | contains
  | isNull
  | isNotNull
  deriving DecidableEq, Repr

namespace Operator

/-- All operators in their usual order. -/
def all : List Operator :=
  [.equal, .notEqual, .greaterThan, .greaterThanOrEqual, .lessThan, .lessThanOrEqual, .contains,
    .isNull, .isNotNull]

/-- The name of an operator. -/
def name : Operator → String
  | .equal => "Equal"
  | .notEqual => "NotEqual"
  | .greaterThan => "GreaterThan"
  | .greaterThanOrEqual => "GreaterThanOrEqual"
  | .lessThan => "LessThan"
  | .lessThanOrEqual => "LessThanOrEqual"
  | .contains => "Contains"
  | .isNull => "IsNull"
  | .isNotNull => "IsNotNull"

/-- Whether the operator tests for null and needs no literal. -/
def isNullTest : Operator → Bool
  | .isNull | .isNotNull => true
  | _ => false

/-- Whether the operator asks for larger or smaller. -/
def isOrdering : Operator → Bool
  | .greaterThan | .greaterThanOrEqual | .lessThan | .lessThanOrEqual => true
  | _ => false

/-- The names of operators, with commas between them. -/
def list (operators : List Operator) : String :=
  ", ".intercalate (operators.map name)

/-- The operator that a text names, blanks around it and case not counting. -/
def read (text : String) : Except QueryError Operator :=
  match all.find? fun op => Text.sameFolded op.name (Text.trim text) with
  | some op => .ok op
  | none => .error (.unsupportedOperator text "" "" (list all))

end Operator

/-- A comparison of a property with a literal. -/
structure Filter where
  property : String
  operator : Operator
  value : Option String
  deriving DecidableEq, Repr

namespace Filter

/-- Equality with a literal. -/
def equal (property value : String) : Filter := ⟨property, .equal, some value⟩

/-- The test for null. -/
def isNull (property : String) : Filter := ⟨property, .isNull, none⟩

end Filter

/-- How the filters of a list are joined. -/
inductive Connective where
  | and
  | or
  deriving DecidableEq, Repr

instance : Inhabited Connective := ⟨.and⟩

namespace Connective

/-- The connective inside a description. -/
def keyword : Connective → String
  | .and => "AND"
  | .or => "OR"

/-- The name of a connective. -/
def name : Connective → String
  | .and => "And"
  | .or => "Or"

end Connective

/-- Filters joined by one connective. -/
structure FilterList where
  filters : List Filter
  connective : Connective
  deriving DecidableEq, Repr

namespace FilterList

/-- All filters have to hold. -/
def all (filters : List Filter) : FilterList := ⟨filters, .and⟩

/-- One filter has to hold. -/
def any (filters : List Filter) : FilterList := ⟨filters, .or⟩

end FilterList

end EntityQuery

import EntityQuery.Literal
import EntityQuery.Request.Filter
import EntityQuery.Schema.Basic
import EntityQuery.Text.Infix
import EntityQuery.Value.Text

/-!
Predicates: conditions on entities with every name resolved and every literal converted. Filters
and filter lists become predicates; a predicate holds of an entity or does not.
-/

namespace EntityQuery

/-- The six comparisons with a constant. -/
inductive Comparison where
  | equal
  | notEqual
  | greater
  | greaterOrEqual
  | less
  | lessOrEqual
  deriving DecidableEq, Repr

namespace Comparison

/-- The sign of a comparison. -/
def symbol : Comparison → String
  | .equal => "="
  | .notEqual => "<>"
  | .greater => ">"
  | .greaterOrEqual => ">="
  | .less => "<"
  | .lessOrEqual => "<="

/-- Whether the comparison holds of values in the given order. -/
def holds : Comparison → Ordering → Bool
  | .equal, o => o == .eq
  | .notEqual, o => o != .eq
  | .greater, o => o == .gt
  | .greaterOrEqual, o => o != .lt
  | .less, o => o == .lt
  | .lessOrEqual, o => o != .gt

/-- Whether two values are equal to a filter: both null, or comparable and neither the larger. -/
def same (a b : Value) : Bool :=
  match a.isNull, b.isNull with
  | true, true => true
  | false, false => a.compare? b == some .eq
  | _, _ => false

/-- Whether the comparison of a value with a constant holds. Larger and smaller never hold of
values without an order, and so never of null. -/
def test (op : Comparison) (actual constant : Value) : Bool :=
  match op with
  | .equal => same actual constant
  | .notEqual => !same actual constant
  | op => (actual.compare? constant).any op.holds

end Comparison

/-- A condition on entities. -/
inductive Predicate where
  | compare (field : FieldRef) (op : Comparison) (value : Value)
  /-- The text of the field contains another. -/
  | contains (field : FieldRef) (needle : String)
  | isNull (field : FieldRef)
  | isNotNull (field : FieldRef)
  | and (left right : Predicate)
  | or (left right : Predicate)
  deriving Repr

namespace Predicate

variable {E : Type}

/-- Whether the predicate holds of an entity. -/
def holds (s : Schema E) (e : E) : Predicate → Bool
  | .compare f op v => op.test (s.read e f) v
  | .contains f needle => (s.read e f).asText?.any fun text => Text.contains text needle
  | .isNull f => (s.read e f).isNull
  | .isNotNull f => !(s.read e f).isNull
  | .and p q => p.holds s e && q.holds s e
  | .or p q => p.holds s e || q.holds s e

/-- The fields of a predicate from left to right. -/
def fields : Predicate → List FieldRef
  | .compare f _ _ | .contains f _ | .isNull f | .isNotNull f => [f]
  | .and p q | .or p q => p.fields ++ q.fields

/-- The fields that are read to decide the predicate for an entity: the right side only where the
left one leaves it open. -/
def reads (s : Schema E) (e : E) : Predicate → List FieldRef
  | .compare f _ _ | .contains f _ | .isNull f | .isNotNull f => [f]
  | .and p q => if p.holds s e then p.reads s e ++ q.reads s e else p.reads s e
  | .or p q => if p.holds s e then p.reads s e else p.reads s e ++ q.reads s e

/-- The text of a predicate. -/
def describe : Predicate → String
  | .compare f op v => f.name ++ " " ++ op.symbol ++ " " ++ v.describe
  | .contains f needle => f.name ++ " CONTAINS \"" ++ needle ++ "\""
  | .isNull f => f.name ++ " IS NULL"
  | .isNotNull f => f.name ++ " IS NOT NULL"
  | .and p q => "(" ++ p.describe ++ " AND " ++ q.describe ++ ")"
  | .or p q => "(" ++ p.describe ++ " OR " ++ q.describe ++ ")"

/-- Two predicates under a connective. -/
def join : Connective → Predicate → Predicate → Predicate
  | .and => .and
  | .or => .or

/-! ### From filters -/

/-- Whether an operator makes sense for fields of a kind. -/
def supports (kind : FieldKind) : Operator → Bool
  | .equal | .notEqual | .isNull | .isNotNull => true
  | .contains => kind = .text
  | .greaterThan | .greaterThanOrEqual | .lessThan | .lessThanOrEqual => kind.isOrdered

/-- The operators for fields of a kind. -/
def allowed (kind : FieldKind) : List Operator := Operator.all.filter (supports kind)

/-- The comparison of a field with a literal. -/
def comparing (f : FieldRef) (type : FieldType) (op : Comparison) (literal : Option String) :
    Except QueryError Predicate :=
  .compare f op <$> Literal.coerce type literal

/-- The predicate of an operator that the field supports. -/
def build (f : FieldRef) (type : FieldType) (literal : Option String) :
    Operator → Except QueryError Predicate
  | .isNull => .ok (.isNull f)
  | .isNotNull => .ok (.isNotNull f)
  | .contains =>
    match literal with
    | some needle => .ok (.contains f needle)
    | none => .error (.invalidValue none type.text .needleNull)
  | .equal => comparing f type .equal literal
  | .notEqual => comparing f type .notEqual literal
  | .greaterThan => comparing f type .greater literal
  | .greaterThanOrEqual => comparing f type .greaterOrEqual literal
  | .lessThan => comparing f type .less literal
  | .lessThanOrEqual => comparing f type .lessOrEqual literal

/-- The predicate of a filter. -/
def ofFilter (s : Schema E) (filter : Filter) : Except QueryError Predicate := do
  let f ← s.resolve filter.property
  let type := s.typeOf f
  if supports type.kind filter.operator then
    build f type filter.value filter.operator
  else
    .error (.unsupportedOperator filter.operator.name f.name type.text
      (Operator.list (allowed type.kind)))

/-- The predicate of a filter list: its filters from left to right under the connective. A list
without filters has no predicate. -/
def ofList (s : Schema E) (list : FilterList) : Except QueryError Predicate :=
  match list.filters with
  | [] => .error (.invalidArgument .emptyFilterList)
  | first :: rest => do
    rest.foldlM (fun p filter => join list.connective p <$> ofFilter s filter) (← ofFilter s first)

end Predicate

end EntityQuery

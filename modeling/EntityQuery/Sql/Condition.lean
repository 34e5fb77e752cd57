import EntityQuery.Predicate
import EntityQuery.Sql.Fragment

/-!
Conditions of statements. A predicate becomes a condition on columns that holds of the same rows:
what is unequal to a constant includes null, so a column that may be null is also tested for it.
-/

namespace EntityQuery.Sql

/-- A condition on the columns of a row. -/
inductive Condition where
  | compare (column : String) (op : Comparison) (p : Param)
  /-- The column is unequal to the parameter, or null. -/
  | differs (column : String) (p : Param)
  /-- The text of the column contains the parameter. -/
  | contains (column : String) (needle : Param)
  | isNull (column : String)
  | isNotNull (column : String)
  | and (left right : Condition)
  | or (left right : Condition)
  deriving Repr

namespace Condition

/-- The condition of a comparison with a constant. -/
def ofComparison (column : String) (nullable : Bool) (op : Comparison) (v : Value) : Condition :=
  match op, v.isNull with
  | .equal, true => .isNull column
  | .notEqual, true => .isNotNull column
  | .notEqual, false =>
    if nullable then .differs column (.ofValue v) else .compare column .notEqual (.ofValue v)
  | op, _ => .compare column op (.ofValue v)

/-- The condition of a predicate. -/
def ofPredicate {E : Type} (s : Schema E) : Predicate → Condition
  | .compare f op v => ofComparison f.name (s.typeOf f).nullable op v
  | .contains f needle => .contains f.name (.string needle)
  | .isNull f => .isNull f.name
  | .isNotNull f => .isNotNull f.name
  | .and p q => .and (ofPredicate s p) (ofPredicate s q)
  | .or p q => .or (ofPredicate s p) (ofPredicate s q)

/-- The text of a condition for a statement that is being written. The parameters are bound to the
statement at once; the text is left to be written. -/
def render (f : Fragment) : Condition → Fragment × String
  | .compare column op p =>
    let (f, place) := f.bind p
    (f, quote column ++ " " ++ op.symbol ++ " " ++ place)
  | .differs column p =>
    let (f, place) := f.bind p
    (f, "(" ++ quote column ++ " <> " ++ place ++ " OR " ++ quote column ++ " IS NULL)")
  | .contains column needle =>
    let (f, place) := f.bind needle
    (f, "instr(" ++ quote column ++ ", " ++ place ++ ") > 0")
  | .isNull column => (f, quote column ++ " IS NULL")
  | .isNotNull column => (f, quote column ++ " IS NOT NULL")
  | .and p q =>
    let (f, left) := p.render f
    let (f, right) := q.render f
    (f, "(" ++ left ++ " AND " ++ right ++ ")")
  | .or p q =>
    let (f, left) := p.render f
    let (f, right) := q.render f
    (f, "(" ++ left ++ " OR " ++ right ++ ")")

/-- The text of a condition with its parameters. -/
def fragment (c : Condition) : Fragment :=
  let (f, text) := c.render .empty
  f.push text

end Condition

end EntityQuery.Sql

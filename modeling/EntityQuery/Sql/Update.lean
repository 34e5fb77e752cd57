import EntityQuery.Sql.Query

/-!
Updates as SQLite reads them from a text and runs them on a table: every row for which the condition
is true, as it is before the update, gets the values of parameters in the columns that are named.
Rows keep their places, and an update tells how many rows it touched.
-/

namespace EntityQuery.Sql

/-- An update of one table: the columns that are set, each to a parameter. -/
structure Update where
  table : String
  assignments : List (String × Nat)
  filter : Option Expression
  deriving DecidableEq, Repr

namespace Update

/-! ### Reading -/

/-- Columns and the parameters they are set to, with commas between them. -/
def readAssignments : List Lexeme → Option (List (String × Nat) × List Lexeme)
  | .name column :: .sign .equal :: .parameter n :: .sign .comma :: rest =>
    (readAssignments rest).map fun (assignments, rest) => ((column, n) :: assignments, rest)
  | .name column :: .sign .equal :: .parameter n :: rest => some ([(column, n)], rest)
  | _ => none

/-- The update that some lexemes are. -/
def ofLexemes (ls : List Lexeme) : Option Update := do
  match ← Query.after "update" ls with
  | .name table :: rest =>
    let (assignments, rest) ← readAssignments (← Query.after "set" rest)
    let (filter, rest) ← Query.clause "where" (Expression.read [] none) rest
    if rest.isEmpty then return ⟨table, assignments, filter⟩ else none
  | _ => none

/-- The update that a text is. -/
def ofText (text : String) : Option Update := do
  ofLexemes (← lexemes text.toList)

/-! ### Names -/

/-- The columns that are spoken of. -/
def columns (u : Update) : List String :=
  u.assignments.map Prod.fst ++ (u.filter.map Expression.columns).getD []

/-- The update is one of the table, which has all columns that are spoken of. -/
def Resolves (u : Update) (t : Table) : Prop :=
  Text.sameFolded t.name u.table ∧
    ∀ name ∈ u.columns, ∃ column ∈ t.columns, Text.sameFolded column name

/-! ### Effects -/

/-- A row with another value in a column, whose name may be spelled in either case. -/
def put (row : List (String × Datum)) (column : String) (d : Datum) : List (String × Datum) :=
  row.map fun c => (c.1, if Text.sameFolded c.1 column then d else c.2)

/-- The columns that are set and their new values. -/
def values? (arguments : List Datum) (assignments : List (String × Nat)) :
    Option (List (String × Datum)) :=
  assignments.mapM fun a => (Expression.argument? arguments a.2).map (a.1, ·)

/-- A row with the new values. Where a column is set twice, the last value counts. -/
def assign (row values : List (String × Datum)) : List (String × Datum) :=
  values.foldl (fun row c => put row c.1 c.2) row

/-- The rows after the update, and the number of those that it touched, which are those that pass
its condition. -/
def rows? (u : Update) (arguments : List Datum) (values : List (String × Datum)) :
    List (List (String × Datum)) → Option (List (List (String × Datum)) × Nat)
  | [] => some ([], 0)
  | row :: rows => do
    let touched ← Expression.passes? row arguments u.filter
    let (rows, n) ← rows? u arguments values rows
    return if touched then (assign row values :: rows, n + 1) else (row :: rows, n)

/-- The update leads from a table to another and touches a number of rows on its way. -/
def Leads (u : Update) (t : Table) (arguments : List Datum) (t' : Table) (n : Nat) : Prop :=
  u.Resolves t ∧ t'.name = t.name ∧ t'.columns = t.columns ∧
    ∃ values, values? arguments u.assignments = some values ∧
      u.rows? arguments values t.rows = some (t'.rows, n)

end Update

/-- A text with parameters is an update that leads from a table to another and touches a number of
rows on its way. -/
def Fragment.Leads (f : Fragment) (t t' : Table) (n : Nat) : Prop :=
  ∃ u, Update.ofText f.text = some u ∧ u.Leads t (f.params.map .ofParam) t' n

end EntityQuery.Sql

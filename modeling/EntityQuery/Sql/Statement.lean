import EntityQuery.Plan.Query
import EntityQuery.Sql.Condition

/-!
Statements for a table whose columns are named as the fields of a schema. A plan becomes a query,
a grouped plan one that numbers the rows of each group and keeps the first; counts, bulk changes
and bulk deletions have statements of their own.
-/

namespace EntityQuery.Sql

/-- A selected column, under its own name or under another. -/
structure Output where
  column : String
  label : Option String
  deriving DecidableEq, Repr

/-- A column to sort by. -/
structure OrderTerm where
  column : String
  direction : Direction
  deriving DecidableEq, Repr

/-- A window on the rows: at most so many, all without number, after those dropped. -/
structure Window where
  limit : Option Int64
  offset : Int64
  deriving DecidableEq, Repr

/-- Where the rows of a query come from. -/
inductive Source where
  | rows (order : Option OrderTerm)
  /-- The first row of each part of the table with equal values in a column. -/
  | firstOfEach (column : String) (order : Option OrderTerm)
  deriving DecidableEq, Repr

/-- A statement. -/
inductive Statement where
  | select (table : String) (outputs : List Output) (source : Source) (filter : Option Condition)
    (window : Option Window)
  | count (table : String) (filter : Option Condition)
  | update (table : String) (assignments : List (String × Param)) (filter : Option Condition)
  | delete (table : String) (filter : Option Condition)
  deriving Repr

/-! ### Texts -/

/-- The column that numbers the rows of a group. -/
def rowNumber : String := "__rn"

/-- The text of a selected column. -/
def Output.text (o : Output) : String :=
  match o.label with
  | some label => quote o.column ++ " AS " ++ quote label
  | none => quote o.column

/-- The text of the selected columns. -/
def outputsText (outputs : List Output) : String := ", ".intercalate (outputs.map Output.text)

/-- The text of a sort order with the words in front of it. -/
def orderText : Option OrderTerm → String
  | some o => " ORDER BY " ++ quote o.column ++ " " ++ o.direction.keyword
  | none => ""

namespace Fragment

/-- The fragment with a filter and the word in front of it, which is written when the parameters of
the filter are bound already. -/
def pushWhere (f : Fragment) : Option Condition → Fragment
  | some c =>
    let (f, text) := c.render f
    (f.push " WHERE ").push text
  | none => f

/-- The texts of some assignments, left to be written; their parameters are bound. -/
def bindAssignments (f : Fragment) : List (String × Param) → Fragment × List String
  | [] => (f, [])
  | (column, p) :: rest =>
    let (f, place) := f.bind p
    let (f, texts) := f.bindAssignments rest
    (f, (quote column ++ " = " ++ place) :: texts)

/-- The fragment with a window. Rows can only be dropped after a limit, and -1 limits nothing. -/
def pushWindow (f : Fragment) : Option Window → Fragment
  | some w =>
    let (f, limit) := match w.limit with
      | some n => f.bind (.integer n)
      | none => (f, "-1")
    let (f, offset) := f.bind (.integer w.offset)
    f.push (" LIMIT " ++ limit ++ " OFFSET " ++ offset)
  | none => f

end Fragment

/-- The text of a statement with its parameters. -/
def Statement.fragment : Statement → Fragment
  | .select table outputs (.rows order) filter window =>
    let f := Fragment.ofText ("SELECT " ++ outputsText outputs ++ " FROM " ++ quote table)
    ((f.pushWhere filter).push (orderText order)).pushWindow window
  | .select table outputs (.firstOfEach column order) filter window =>
    let parts := "PARTITION BY " ++ quote column ++ orderText order
    let f := Fragment.ofText ("SELECT " ++ outputsText outputs ++
      " FROM (SELECT *, ROW_NUMBER() OVER (" ++ parts ++ ") AS " ++ quote rowNumber ++ " FROM " ++
      quote table)
    ((f.pushWhere filter).push (") WHERE " ++ quote rowNumber ++ " = 1")).pushWindow window
  | .count table filter =>
    (Fragment.ofText ("SELECT COUNT(*) FROM " ++ quote table)).pushWhere filter
  | .update table assignments filter =>
    let f := Fragment.ofText ("UPDATE " ++ quote table ++ " SET ")
    let (f, texts) := f.bindAssignments assignments
    (f.push (", ".intercalate texts)).pushWhere filter
  | .delete table filter => (Fragment.ofText ("DELETE FROM " ++ quote table)).pushWhere filter

/-! ### From plans -/

variable {E : Type}

/-- The columns of a projection, or all columns. -/
def outputs (s : Schema E) : Option Projection → List Output
  | some p => p.columns.map fun c => ⟨c.field.name, some c.key⟩
  | none => s.fields.map fun f => ⟨f.name, none⟩

/-- The column of a sort key. -/
def OrderTerm.ofKey (k : SortKey) : OrderTerm := ⟨k.field.name, k.direction⟩

/-- The window of a page, if it is one. -/
def Window.ofPage (p : Page) : Option Window :=
  if p.isUnbounded then none
  else some ⟨p.limit?.map Int64.ofNat, Int64.ofNat p.skip.toNat⟩

/-- The query of a plan. -/
def select (s : Schema E) (table : String) (p : Plan) : Statement :=
  let filter := p.filter.map (Condition.ofPredicate s)
  let source := match p.arrangement with
    | .sorted key => Source.rows (key.map .ofKey)
    | .grouped key r => .firstOfEach key.field.name (r.order.map .ofKey)
  .select table (outputs s p.effectiveProjection) source filter (Window.ofPage p.page)

/-- The number of rows that pass a filter. -/
def count (s : Schema E) (table : String) (filter : Option Predicate) : Statement :=
  .count table (filter.map (Condition.ofPredicate s))

/-- The change of the rows that pass a filter. -/
def update (s : Schema E) (table : String) (c : BulkChange) : Statement :=
  .update table (c.mutation.assignments.map fun a => (a.field.name, .ofValue a.value))
    (c.filter.map (Condition.ofPredicate s))

/-- The deletion of the rows that pass a filter. -/
def delete (s : Schema E) (table : String) (filter : Option Predicate) : Statement :=
  .delete table (filter.map (Condition.ofPredicate s))

end EntityQuery.Sql

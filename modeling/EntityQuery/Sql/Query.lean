import EntityQuery.Sql.Expression
import EntityQuery.Sql.Statement

/-!
Queries as SQLite reads them from a text and answers them from a table: the rows for which the
condition is true, in the order of a column, null first, as far as the window shows them. The order
of rows that tie, and of all rows where nothing is sorted, is left open; so a query may have several
answers.
-/

namespace EntityQuery.Sql

/-- A table. Every row holds its values under the names of the columns. -/
structure Table where
  name : String
  columns : List String
  rows : List (List (String × Datum))
  columns_eq : ∀ row ∈ rows, row.map Prod.fst = columns

/-- A number of rows, written down or given by a parameter. -/
inductive Amount where
  | given (n : Int)
  | parameter (number : Nat)
  deriving DecidableEq, Repr

/-- A query of one table: how many rows it shows at most and how many it skips comes last. -/
structure Query where
  outputs : List Output
  table : String
  filter : Option Expression
  order : Option OrderTerm
  window : Option (Amount × Amount)
  deriving DecidableEq, Repr

namespace Query

/-! ### Reading -/

/-- What follows a word at the start of some lexemes. -/
def after (w : String) : List Lexeme → Option (List Lexeme)
  | .word v :: rest => if v = w then some rest else none
  | _ => none

/-- A part of a query that starts with a word and may be left out. -/
def clause {α : Type} (w : String) (read : List Lexeme → Option (α × List Lexeme))
    (ls : List Lexeme) : Option (Option α × List Lexeme) :=
  match after w ls with
  | some rest => (read rest).map fun (x, rest) => (some x, rest)
  | none => some (none, ls)

/-- The selected columns, with commas between them. -/
def readOutputs : List Lexeme → Option (List Output × List Lexeme)
  | .name column :: .sign .comma :: rest =>
    (readOutputs rest).map fun (outputs, rest) => (⟨column, none⟩ :: outputs, rest)
  | .name column :: .word w :: .name label :: .sign .comma :: rest =>
    if w = "as" then
      (readOutputs rest).map fun (outputs, rest) => (⟨column, some label⟩ :: outputs, rest)
    else some ([⟨column, none⟩], .word w :: .name label :: .sign .comma :: rest)
  | .name column :: .word w :: .name label :: rest =>
    if w = "as" then some ([⟨column, some label⟩], rest)
    else some ([⟨column, none⟩], .word w :: .name label :: rest)
  | .name column :: rest => some ([⟨column, none⟩], rest)
  | _ => none

/-- The direction that a word stands for. -/
def direction? (w : String) : Option Direction :=
  if w = "asc" then some .ascending
  else if w = "desc" then some .descending
  else none

/-- A column and a direction, after `ORDER`. -/
def readOrder (ls : List Lexeme) : Option (OrderTerm × List Lexeme) := do
  match ← after "by" ls with
  | .name column :: .word w :: rest => return (⟨column, ← direction? w⟩, rest)
  | _ => none

/-- A number of rows. -/
def readAmount : List Lexeme → Option (Amount × List Lexeme)
  | .parameter n :: rest => some (.parameter n, rest)
  | .number n :: rest => some (.given n, rest)
  | .sign .minus :: .number n :: rest => some (.given (-n), rest)
  | _ => none

/-- A limit and what is skipped, after `LIMIT`. -/
def readWindow (ls : List Lexeme) : Option ((Amount × Amount) × List Lexeme) := do
  let (limit, rest) ← readAmount ls
  let (offset, rest) ← readAmount (← after "offset" rest)
  return ((limit, offset), rest)

/-- The query that some lexemes are. -/
def ofLexemes (ls : List Lexeme) : Option Query := do
  let (outputs, rest) ← readOutputs (← after "select" ls)
  match ← after "from" rest with
  | .name table :: rest =>
    let (filter, rest) ← clause "where" (Expression.read [] none) rest
    let (order, rest) ← clause "order" readOrder rest
    let (window, rest) ← clause "limit" readWindow rest
    if rest.isEmpty then return ⟨outputs, table, filter, order, window⟩ else none
  | _ => none

/-- The query that a text is. -/
def ofText (text : String) : Option Query := do
  ofLexemes (← lexemes text.toList)

/-! ### Names -/

/-- The column to sort by: that of the first selected column with this label, if there is one. -/
def sortColumn (q : Query) (term : OrderTerm) : String :=
  match q.outputs.find? fun o => o.label.any fun label => Text.sameFolded label term.column with
  | some o => o.column
  | none => term.column

/-- The columns that are spoken of. -/
def columns (q : Query) : List String :=
  q.outputs.map Output.column ++ (q.filter.map Expression.columns).getD [] ++
    (q.order.map q.sortColumn).toList

/-- The query is one of the table, which has all columns that are spoken of. -/
def Resolves (q : Query) (t : Table) : Prop :=
  Text.sameFolded t.name q.table ∧
    ∀ name ∈ q.columns, ∃ column ∈ t.columns, Text.sameFolded column name

/-! ### Answers -/

/-- Whether the condition is true for a row. Without condition every row is kept. -/
def keeps? (q : Query) (arguments : List Datum) (row : List (String × Datum)) : Option Bool :=
  match q.filter with
  | some x => x.isTrue row arguments
  | none => some true

/-- The rows for which the condition is true. -/
def kept? (q : Query) (arguments : List Datum) :
    List (List (String × Datum)) → Option (List (List (String × Datum)))
  | [] => some []
  | row :: rows => do
    let keep ← q.keeps? arguments row
    let rest ← kept? q arguments rows
    return if keep then row :: rest else rest

/-- The order of two rows by a column. -/
def compareBy (column : String) (direction : Direction) (a b : List (String × Datum)) : Ordering :=
  let value (row : List (String × Datum)) := (Expression.column? row column).getD .null
  let o := (value a).order (value b)
  match direction with
  | .ascending => o
  | .descending => o.swap

/-- A row may stand in front of another. -/
def Precedes (q : Query) (a b : List (String × Datum)) : Prop :=
  ∀ term ∈ q.order, compareBy (q.sortColumn term) term.direction a b ≠ .gt

end Query

/-- The number that is meant. A parameter has to be an integer. -/
def Amount.value? (arguments : List Datum) : Amount → Option Int
  | .given n => some n
  | .parameter number =>
    match Expression.argument? arguments number with
    | some (.integer n) => some n
    | _ => none

/-- The rows that are shown: a negative limit is none, and a negative number skips nothing. -/
def windowed {α : Type} (limit offset : Int) (rows : List α) : List α :=
  let rows := rows.drop offset.toNat
  if limit < 0 then rows else rows.take limit.toNat

/-- The value of a selected column under its label, or under the name of the column. -/
def Output.value? (row : List (String × Datum)) (o : Output) : Option (String × Datum) :=
  (row.find? fun c => Text.sameFolded c.1 o.column).map fun (name, d) => (o.label.getD name, d)

namespace Query

/-- The rows that the window shows. -/
def shown? {α : Type} (q : Query) (arguments : List Datum) (rows : List α) : Option (List α) :=
  match q.window with
  | none => some rows
  | some (limit, offset) => do
    return windowed (← limit.value? arguments) (← offset.value? arguments) rows

/-- What a query may answer from a table: the kept rows in an order that it asks for, those that are
shown, and of each the selected columns. -/
def Answers (q : Query) (t : Table) (arguments : List Datum)
    (answer : List (List (String × Datum))) : Prop :=
  q.Resolves t ∧ ∃ kept sorted shown, q.kept? arguments t.rows = some kept ∧ sorted.Perm kept ∧
    sorted.Pairwise q.Precedes ∧ q.shown? arguments sorted = some shown ∧
    shown.mapM (fun row => q.outputs.mapM (Output.value? row)) = some answer

end Query

/-- What a text with parameters may answer from a table. -/
def Fragment.Answers (f : Fragment) (t : Table) (answer : List (List (String × Datum))) : Prop :=
  ∃ q, Query.ofText f.text = some q ∧ q.Answers t (f.params.map .ofParam) answer

end EntityQuery.Sql

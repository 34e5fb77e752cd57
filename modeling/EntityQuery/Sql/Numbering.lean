import EntityQuery.Sql.Query

/-!
Queries of numbered rows, `SELECT … FROM (SELECT *, ROW_NUMBER() OVER (…) AS … FROM …) …`, as SQLite
reads them from a text and answers them. Inside, the rows with one value in a column are numbered
from 1, in the order of another column; the number stands in a new column behind those of the table,
and the query outside is one of this table. Where rows tie the order of numbers is left open, as is
that of the numbered rows.
-/

namespace EntityQuery.Sql

/-- A numbering of the rows of a table that pass a condition. -/
structure Numbering where
  table : String
  filter : Option Expression
  /-- The column whose values tell the parts apart that are numbered each by itself. -/
  partition : String
  order : Option OrderTerm
  /-- The column that the numbers stand in. -/
  label : String
  deriving DecidableEq, Repr

namespace Numbering

/-! ### Reading -/

/-- What follows a sign at the start of some lexemes. -/
def afterSign (s : Sign) : List Lexeme → Option (List Lexeme)
  | .sign t :: rest => if t = s then some rest else none
  | _ => none

/-- A name at the start of some lexemes, and what follows it. -/
def readName : List Lexeme → Option (String × List Lexeme)
  | .name n :: rest => some (n, rest)
  | _ => none

/-- A column that tells parts apart and a sort order, after `OVER`. -/
def readParts (ls : List Lexeme) : Option ((String × Option OrderTerm) × List Lexeme) := do
  let rest ← Query.after "partition" (← afterSign .openParen ls)
  let (column, rest) ← readName (← Query.after "by" rest)
  let (order, rest) ← Query.clause "order" Query.readOrder rest
  return ((column, order), ← afterSign .closeParen rest)

/-- A numbering in parentheses. -/
def read (ls : List Lexeme) : Option (Numbering × List Lexeme) := do
  let rest ← Query.after "select" (← afterSign .openParen ls)
  let rest ← afterSign .comma (← afterSign .star rest)
  let rest ← afterSign .openParen (← Query.after "row_number" rest)
  let rest ← Query.after "over" (← afterSign .closeParen rest)
  let ((partition, order), rest) ← readParts rest
  let (label, rest) ← readName (← Query.after "as" rest)
  let (table, rest) ← readName (← Query.after "from" rest)
  let (filter, rest) ← Query.clause "where" (Expression.read [] none) rest
  return (⟨table, filter, partition, order, label⟩, ← afterSign .closeParen rest)

/-! ### Names -/

/-- The query of the rows that are numbered. -/
def source (n : Numbering) : Query := ⟨[], n.table, n.filter, n.order, none⟩

/-- The numbering is one of the table, which has all columns that are spoken of. -/
def Resolves (n : Numbering) (t : Table) : Prop :=
  n.source.Resolves t ∧ ∃ column ∈ t.columns, Text.sameFolded column n.partition

/-! ### Numbers -/

/-- Whether two rows belong to one part. Nulls are one value here. -/
def samePart (n : Numbering) (a b : List (String × Datum)) : Bool :=
  let value (row : List (String × Datum)) := (Expression.column? row n.partition).getD .null
  (value a).same (value b)

/-- Rows with their numbers, behind others: one more than there are rows of the same part in
front. -/
def number (n : Numbering) (before : List (List (String × Datum))) :
    List (List (String × Datum)) → List (List (String × Datum))
  | [] => []
  | row :: rows =>
    (row ++ [(n.label, .integer (before.countP (n.samePart row) + 1 : Nat))]) ::
      number n (row :: before) rows

/-- The numbering may make the second table of the first: the kept rows, arranged so that those of
one part stand in its order, each with its number. -/
def Yields (n : Numbering) (t : Table) (arguments : List Datum) (t' : Table) : Prop :=
  n.Resolves t ∧ t'.name = "" ∧ t'.columns = t.columns ++ [n.label] ∧
    ∃ kept arranged, n.source.kept? arguments t.rows = some kept ∧ arranged.Perm kept ∧
      arranged.Pairwise (fun a b => n.samePart a b → n.source.Precedes a b) ∧
      t'.rows = n.number [] arranged

end Numbering

/-- The numbering and the query of numbered rows that some lexemes are. The numbered rows have no
name. -/
def Query.ofNumberedLexemes (ls : List Lexeme) : Option (Numbering × Query) := do
  let (outputs, rest) ← readOutputs (← after "select" ls)
  let (n, rest) ← Numbering.read (← after "from" rest)
  let (filter, rest) ← clause "where" (Expression.read [] none) rest
  let (order, rest) ← clause "order" readOrder rest
  let (window, rest) ← clause "limit" readWindow rest
  if rest.isEmpty then return (n, ⟨outputs, "", filter, order, window⟩) else none

/-- The numbering and the query of numbered rows that a text is. -/
def Query.ofNumberedText (text : String) : Option (Numbering × Query) := do
  ofNumberedLexemes (← lexemes text.toList)

/-- What a text with parameters that numbers rows may answer from a table. -/
def Fragment.AnswersNumbered (f : Fragment) (t : Table) (answer : List (List (String × Datum))) :
    Prop :=
  ∃ n q t', Query.ofNumberedText f.text = some (n, q) ∧
    n.Yields t (f.params.map .ofParam) t' ∧ q.Answers t' (f.params.map .ofParam) answer

end EntityQuery.Sql

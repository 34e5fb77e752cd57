import EntityQuery.Sql.Datum
import EntityQuery.Sql.Lexeme

/-!
Expressions as SQLite reads them from a text and computes them for a row. Operators bind as tightly
as their priority says, those of one priority from left to right: `OR` binds least, then `AND`,
then equality with `IS`, and then larger and smaller.
-/

namespace EntityQuery.Sql

/-- An operator between two expressions. -/
inductive Binary where
  | or
  | and
  | is
  | isNot
  | equal
  | notEqual
  | less
  | lessOrEqual
  | greater
  | greaterOrEqual
  deriving DecidableEq, Repr

/-- How tightly an operator binds. -/
def Binary.priority : Binary → Nat
  | .or => 0
  | .and => 1
  | .is | .isNot | .equal | .notEqual => 2
  | .less | .lessOrEqual | .greater | .greaterOrEqual => 3

/-- An expression. -/
inductive Expression where
  | column (name : String)
  | parameter (number : Nat)
  | integer (n : Nat)
  | null
  | binary (op : Binary) (left right : Expression)
  | instr (whole part : Expression)
  deriving DecidableEq, Repr

namespace Expression

/-! ### Reading -/

/-- What an expression was begun with and is not ended yet. -/
inductive Begun where
  /-- A left side and its operator. -/
  | operand (left : Expression) (op : Binary)
  /-- A parenthesis. -/
  | group
  /-- `instr`. -/
  | function
  /-- `instr(`. -/
  | call
  /-- `instr(`, the first argument and a comma. -/
  | callWith (whole : Expression)
  deriving DecidableEq, Repr

/-- Ends the operators at the top that bind at least so tightly, with the expression as their right
side. -/
def close (priority : Nat) : List Begun → Expression → List Begun × Expression
  | .operand left op :: begun, x =>
    if priority ≤ op.priority then close priority begun (.binary op left x)
    else (.operand left op :: begun, x)
  | begun, x => (begun, x)

/-- The operator that a sign stands for. -/
def operator? : Sign → Option Binary
  | .equal => some .equal
  | .notEqual => some .notEqual
  | .less => some .less
  | .lessOrEqual => some .lessOrEqual
  | .greater => some .greater
  | .greaterOrEqual => some .greaterOrEqual
  | _ => none

/-- The operator that a word stands for. -/
def wordOperator? (w : String) : Option Binary :=
  if w = "or" then some .or
  else if w = "and" then some .and
  else if w = "is" then some .is
  else none

/-- What is begun when a parenthesis is opened: the arguments of a function, or a group. -/
def opened : List Begun → List Begun
  | .function :: begun => .call :: begun
  | begun => .group :: begun

/-- What is begun when a word is read where an operand is due: `NOT` turns an `IS` around, and a
function waits for its parenthesis. -/
def wordBegun? : String → List Begun → Option (List Begun)
  | w, .operand left .is :: begun =>
    if w = "not" then some (.operand left .isNot :: begun)
    else if w = "instr" then some (.function :: .operand left .is :: begun)
    else none
  | w, begun => if w = "instr" then some (.function :: begun) else none

/-- The expression at the start of some lexemes, and those that follow it. Either the next operand
is due, or there is one and an operator or an end is due. -/
def read : List Begun → Option Expression → List Lexeme → Option (Expression × List Lexeme)
  | begun, none, .name n :: rest => read begun (some (.column n)) rest
  | begun, none, .parameter n :: rest => read begun (some (.parameter n)) rest
  | begun, none, .number n :: rest => read begun (some (.integer n)) rest
  | begun, none, .sign .openParen :: rest => read (opened begun) none rest
  | begun, none, .word w :: rest =>
    if w = "null" then read begun (some .null) rest
    else match wordBegun? w begun with
      | some begun => read begun none rest
      | none => none
  | _, none, _ => none
  | begun, some x, .sign .closeParen :: rest =>
    match close 0 begun x with
    | (.group :: begun, x) => read begun (some x) rest
    | (.callWith whole :: begun, x) => read begun (some (.instr whole x)) rest
    | ([], x) => some (x, .sign .closeParen :: rest)
    | _ => none
  | begun, some x, .sign .comma :: rest =>
    match close 0 begun x with
    | (.call :: begun, x) => read (.callWith x :: begun) none rest
    | ([], x) => some (x, .sign .comma :: rest)
    | _ => none
  | begun, some x, .sign s :: rest =>
    match operator? s with
    | some op =>
      let (begun, x) := close op.priority begun x
      read (.operand x op :: begun) none rest
    | none => none
  | begun, some x, .word w :: rest =>
    match wordOperator? w with
    | some op =>
      let (begun, x) := close op.priority begun x
      read (.operand x op :: begun) none rest
    | none =>
      match close 0 begun x with
      | ([], x) => some (x, .word w :: rest)
      | _ => none
  | begun, some x, rest =>
    match close 0 begun x with
    | ([], x) => some (x, rest)
    | _ => none

/-- The expression that a text is. -/
def ofText (text : String) : Option Expression := do
  let (x, rest) ← read [] none (← lexemes text.toList)
  if rest.isEmpty then some x else none

/-! ### Computing -/

/-- The value in the column of a name, which may be spelled in either case. -/
def column? (row : List (String × Datum)) (name : String) : Option Datum :=
  (row.find? fun c => Text.sameFolded c.1 name).map Prod.snd

/-- The value of the parameter with a number, counted from 1. What is not bound is null. -/
def argument? (arguments : List Datum) (number : Nat) : Option Datum :=
  if number = 0 then none else some ((arguments[number - 1]?).getD .null)

/-- The value of an operator with the given sides. -/
def combine (op : Binary) (a b : Datum) : Option Datum :=
  match op with
  | .or => do return .ofTruth (Datum.disjunction (← a.truth?) (← b.truth?))
  | .and => do return .ofTruth (Datum.conjunction (← a.truth?) (← b.truth?))
  | .is => some (.ofTruth (some (a.same b)))
  | .isNot => some (.ofTruth (some !a.same b))
  | .equal => some (Datum.compared (· == .eq) a b)
  | .notEqual => some (Datum.compared (· != .eq) a b)
  | .less => some (Datum.compared (· == .lt) a b)
  | .lessOrEqual => some (Datum.compared (· != .gt) a b)
  | .greater => some (Datum.compared (· == .gt) a b)
  | .greaterOrEqual => some (Datum.compared (· != .lt) a b)

/-- The value of an expression for a row and some arguments. An unknown column, or what these
definitions leave out, has none. -/
def eval (row : List (String × Datum)) (arguments : List Datum) : Expression → Option Datum
  | .column name => column? row name
  | .parameter number => argument? arguments number
  | .integer n => some (.integer n)
  | .null => some .null
  | .binary op left right => do
    combine op (← left.eval row arguments) (← right.eval row arguments)
  | .instr whole part => do
    Datum.instr (← whole.eval row arguments) (← part.eval row arguments)

/-- The columns of an expression. -/
def columns : Expression → List String
  | .column name => [name]
  | .parameter _ | .integer _ | .null => []
  | .binary _ left right => left.columns ++ right.columns
  | .instr whole part => whole.columns ++ part.columns

/-- Whether an expression is true for a row: neither false nor unknown. -/
def isTrue (row : List (String × Datum)) (arguments : List Datum) (x : Expression) :
    Option Bool := do
  return (← (← x.eval row arguments).truth?) == some true

/-- Whether a row passes a condition: it is true for the row. Without condition every row passes. -/
def passes? (row : List (String × Datum)) (arguments : List Datum) (condition : Option Expression) :
    Option Bool :=
  match condition with
  | some x => x.isTrue row arguments
  | none => some true

end Expression

/-- Whether a text with parameters is true for a row. -/
def Fragment.isTrue (f : Fragment) (row : List (String × Datum)) : Option Bool := do
  (← Expression.ofText f.text).isTrue row (f.params.map .ofParam)

end EntityQuery.Sql

import EntityQuery.Request.Shape
import EntityQuery.Schema.Basic
import EntityQuery.Value.Text

/-!
Projections: the selected properties of an entity as a row of named values. A structured column
holds the JSON document that the text of its field stands for.
-/

namespace EntityQuery

/-! ### Rows -/

/-- Named values in the order of selection. -/
structure Row where
  columns : List (String × Value)
  deriving Repr

namespace Row

/-- The value under a name, spelled exactly. -/
def get? (r : Row) (name : String) : Option Value := r.columns.lookup name

/-- The names in order. -/
def keys (r : Row) : List String := r.columns.map Prod.fst

/-- The number of values. -/
def size (r : Row) : Nat := r.columns.length

/-- Whether there are no values. -/
def isEmpty (r : Row) : Bool := r.columns.isEmpty

/-- The row as a JSON object whose members keep the order of the columns. -/
def text (r : Row) : String := (Json.object (r.columns.map fun (k, v) => (k, v.toJson))).text

end Row

/-- A result of a query: an entity or a row made of one. -/
inductive Hit (E : Type) where
  | entity (e : E)
  | row (r : Row)

/-- The entity of a result. -/
def Hit.entity? {E : Type} : Hit E → Option E
  | .entity e => some e
  | .row _ => none

/-! ### Projections -/

/-- A selected column: its name in the row, its field, and whether a document is decoded. -/
structure Column where
  key : String
  field : FieldRef
  structured : Bool
  deriving DecidableEq, Repr

/-- The selected columns in order. -/
structure Projection where
  columns : List Column
  deriving DecidableEq, Repr

namespace Projection

variable {E : Type}

/-- The column of a selector after the columns that are already there. No name is selected twice,
and only text is decoded. -/
def column (s : Schema E) (before : List Column) (selector : Selector) :
    Except QueryError Column := do
  let f ← s.resolve selector.name
  if before.any fun c => Text.sameFolded c.key selector.name then
    .error (.invalidArgument (.selectedTwice selector.name))
  let kind := (s.typeOf f).kind
  if selector.structured ∧ kind ≠ .text then
    .error (.projection selector.name (.notText kind.name))
  return ⟨selector.name, f, selector.structured⟩

/-- The projection of a selection, which has to select something. -/
def ofSelection (s : Schema E) (selection : Selection) : Except QueryError Projection :=
  if selection.selectors.isEmpty then .error (.invalidArgument .emptySelection)
  else do
    let columns ← selection.selectors.foldlM
      (fun columns selector => do return columns ++ [← column s columns selector]) []
    return ⟨columns⟩

/-- The document of a structured column. Null stays null. -/
def decode (key : String) : Value → Except QueryError Value
  | .null => .ok .null
  | .text document =>
    ((Json.read document).mapError fun e => .projection key (.document e)).map .json
  | v => .error (.projection key (.payload v.kindName))

/-- The value of a column for an entity. -/
def cell (s : Schema E) (e : E) (c : Column) : Except QueryError Value :=
  if c.structured then decode c.key (s.read e c.field) else .ok (s.read e c.field)

/-- The row of an entity. The first column that cannot be decoded is an error. -/
def apply (s : Schema E) (p : Projection) (e : E) : Except QueryError Row := do
  return ⟨← p.columns.mapM fun c => (c.key, ·) <$> cell s e c⟩

/-- The fields that are read to make the row of an entity: those up to the first that cannot be
decoded. -/
def reads (s : Schema E) (e : E) : List Column → List FieldRef
  | [] => []
  | c :: rest =>
    match cell s e c with
    | .ok _ => c.field :: reads s e rest
    | .error _ => [c.field]

end Projection

end EntityQuery

import EntityQuery.Sql.Fragment

/-!
The values that SQLite computes with, and how it compares them: numbers by their value, texts and
blobs by their bytes. Truth has three values, and whatever is compared with null is unknown. No
value is converted to another type before it is compared.
-/

namespace EntityQuery.Sql

/-- A value of a column, a parameter or an expression. -/
inductive Datum where
  | null
  | integer (i : Int)
  | real (x : Binary64)
  | text (s : String)
  | blob (b : List UInt8)
  deriving DecidableEq, Repr

namespace Datum

/-- The value that a parameter is bound as. There is no NaN; null stands in its place. -/
def ofParam : Param → Datum
  | .string s => .text s
  | .integer i => .integer i.toInt
  | .float x => if x.isNaN then .null else .real x
  | .blob b => .blob b
  | .null => .null

/-! ### Order -/

/-- The order of an integer and a number, by their exact values. -/
def integerOrder (i : Int) (x : Binary64) : Ordering :=
  if x.isFinite then
    let (m, q) := x.parts
    let v : Int := if x.negative then -m else m
    compare (i * Nat.pow 2 (-q).toNat) (v * Nat.pow 2 q.toNat)
  else if x.negative then .gt else .lt

/-- The place of a type in the order of values of different types. -/
def rank : Datum → Nat
  | .null => 0
  | .integer _ | .real _ => 1
  | .text _ => 2
  | .blob _ => 3

/-- The order of values. -/
def order : Datum → Datum → Ordering
  | .integer i, .integer j => compare i j
  | .integer i, .real x => integerOrder i x
  | .real x, .integer i => (integerOrder i x).swap
  | .real x, .real y => compare x.orderKey y.orderKey
  | .text s, .text t => compare (Text.bytes s.toList) (Text.bytes t.toList)
  | .blob a, .blob b => compare a b
  | a, b => compare a.rank b.rank

/-- Whether a value is null. -/
def isNull : Datum → Bool
  | .null => true
  | _ => false

/-- Whether `IS` holds of two values: both null, or equal. -/
def same (a b : Datum) : Bool := a.order b == .eq

/-! ### Truth -/

/-- The truth of a number, unknown for null. What has no number is not asked for its truth. -/
def truth? : Datum → Option (Option Bool)
  | .null => some none
  | .integer i => some (some (i != 0))
  | .real x => some (some !x.isZero)
  | .text _ | .blob _ => none

/-- A truth value as a number, and null for the unknown. -/
def ofTruth : Option Bool → Datum
  | none => .null
  | some b => .integer (if b then 1 else 0)

/-- What is compared with null is unknown. -/
def compared (test : Ordering → Bool) (a b : Datum) : Datum :=
  if a.isNull || b.isNull then .null else ofTruth (some (test (a.order b)))

/-- False if one side is false, unknown if otherwise one side is unknown. -/
def conjunction : Option Bool → Option Bool → Option Bool
  | some false, _ | _, some false => some false
  | some true, some true => some true
  | _, _ => none

/-- True if one side is true, unknown if otherwise one side is unknown. -/
def disjunction : Option Bool → Option Bool → Option Bool
  | some true, _ | _, some true => some true
  | some false, some false => some false
  | _, _ => none

/-! ### Functions -/

/-- The number of places in front of the first occurrence of a list in another. -/
def indexOf? {α : Type} [BEq α] (part : List α) : List α → Option Nat
  | [] => if part.isEmpty then some 0 else none
  | c :: rest =>
    if part.isPrefixOf (c :: rest) then some 0 else (indexOf? part rest).map (· + 1)

/-- The place of the first occurrence, counted from 1, and 0 if there is none. -/
def place {α : Type} [BEq α] (part whole : List α) : Datum :=
  .integer (match indexOf? part whole with
    | some n => n + 1
    | none => 0)

/-- `instr`: the place of a text in a text in characters, or of a blob in a blob in bytes. Texts
and blobs are not searched for anything else. -/
def instr : Datum → Datum → Option Datum
  | .null, _ | _, .null => some .null
  | .text whole, .text part => some (place part.toList whole.toList)
  | .blob whole, .blob part => some (place part whole)
  | _, _ => none

end Datum

end EntityQuery.Sql

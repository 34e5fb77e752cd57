import EntityQuery.Value.Text

/-!
SQL text with bound parameters. A parameter is bound before the text that its placeholder stands in
is written; the placeholders are numbered `?1`, `?2`, … in the order in which they are bound.
-/

namespace EntityQuery.Sql

/-- A bound parameter. -/
inductive Param where
  | string (s : String)
  | integer (i : Int64)
  | float (x : Binary64)
  | blob (b : List UInt8)
  | null
  deriving DecidableEq, Repr

/-- The parameter that stands for a value. Truth values and members of enumerations are integers,
and whatever SQL has no type for is text. -/
def Param.ofValue : Value → Param
  | .null => .null
  | .bool b => .integer (if b then 1 else 0)
  | .int i => .integer i
  | .float x => .float x
  | .decimal d => .string d.text
  | .text s => .string s
  | .uuid u => .string u.text
  | .bytes b => .blob b
  | .dateTime t => .string (t.text .micros)
  | .date d => .string d.text
  | .enum m => .integer m.ordinal
  | .json j => .string j.text

/-- The characters of a quoted name; a quote inside is written twice. -/
def quoteChars (name : List Char) : List Char :=
  '"' :: (name.flatMap fun c => if c = '"' then ['"', '"'] else [c]) ++ ['"']

/-- A name in quotes. -/
def quote (name : String) : String := String.ofList (quoteChars name.toList)

/-- A text and its parameters. -/
@[ext]
structure Fragment where
  text : String
  params : List Param
  deriving DecidableEq, Repr

namespace Fragment

/-- A text without parameters. -/
def ofText (text : String) : Fragment := ⟨text, []⟩

/-- Nothing. -/
def empty : Fragment := ofText ""

/-- Whether there is no text. -/
def isEmpty (f : Fragment) : Bool := f.text.isEmpty

/-- The fragment with more text. -/
def push (f : Fragment) (text : String) : Fragment := { f with text := f.text ++ text }

/-- The placeholder of the parameter with the given number. -/
def placeholder (number : Nat) : String := "?" ++ toString number

/-- The fragment with one more parameter, and the placeholder that stands for it. -/
def bind (f : Fragment) (p : Param) : Fragment × String :=
  ({ f with params := f.params ++ [p] }, placeholder (f.params.length + 1))

end Fragment

end EntityQuery.Sql

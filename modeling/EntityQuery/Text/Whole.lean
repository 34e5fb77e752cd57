import EntityQuery.Text.Ascii

/-!
Whole numbers as text: an optional sign and ASCII digits. The reader looks at the digits from left
to right and stops at the first one that is no digit or that leaves the range.
-/

namespace EntityQuery.Whole

/-- Why a text is not a whole number of the wanted range. -/
inductive Problem where
  | empty
  | invalidDigit
  | tooLarge
  | tooSmall
  deriving DecidableEq, Repr

/-- The wording of a problem. -/
def Problem.message : Problem → String
  | .empty => "cannot parse integer from empty string"
  | .invalidDigit => "invalid digit found in string"
  | .tooLarge => "number too large to fit in target type"
  | .tooSmall => "number too small to fit in target type"

/-- The digits of a number no larger than `limit`, after the part already read. -/
def readDigits (limit : Nat) (overflow : Problem) : Nat → List Char → Except Problem Nat
  | acc, [] => .ok acc
  | acc, c :: rest =>
    match Text.digit? c with
    | none => .error .invalidDigit
    | some d =>
      if acc * 10 + d ≤ limit then readDigits limit overflow (acc * 10 + d) rest
      else .error overflow

/-- The integer between `-below` and `above` that a text stands for. -/
def read (below above : Nat) : List Char → Except Problem Int
  | [] => .error .empty
  | ['-'] => .error .invalidDigit
  | ['+'] => .error .invalidDigit
  | '-' :: digits => return -(← readDigits below .tooSmall 0 digits : Nat)
  | '+' :: digits => return (← readDigits above .tooLarge 0 digits : Nat)
  | digits => return (← readDigits above .tooLarge 0 digits : Nat)

/-- A 64 bit integer. -/
def readInt64 (text : List Char) : Except Problem Int64 :=
  return Int64.ofInt (← read 0x8000000000000000 0x7FFFFFFFFFFFFFFF text)

/-- An unsigned 32 bit number. It takes a plus sign and no minus sign. -/
def readUInt32? (text : List Char) : Option Nat :=
  match text with
  | [] | ['+'] => none
  | '+' :: digits => (readDigits 0xFFFFFFFF .tooLarge 0 digits).toOption
  | digits => (readDigits 0xFFFFFFFF .tooLarge 0 digits).toOption

end EntityQuery.Whole

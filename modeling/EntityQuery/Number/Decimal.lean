import EntityQuery.Text.Whole

/-!
Exact decimals: a sign, a natural number of at most 96 bits, and a power of ten up to `10 ^ 28`
that it is divided by. Scale and sign belong to the written form: `1.0` and `1.00` are equal and
print apart, and so do `0` and the `-0` that is left where a negative number is rounded away.
-/

namespace EntityQuery

/-- The number of naturals 96 bits wide. -/
def Decimal.bound : Nat := 0x1000000000000000000000000

/-- The decimal `magnitude / 10 ^ scale`, or its negative. -/
structure Decimal where
  negative : Bool
  magnitude : Nat
  scale : Nat
  magnitude_lt : magnitude < Decimal.bound
  scale_le : scale ≤ 28
  deriving DecidableEq, Repr

namespace Decimal

/-- A decimal from a sign, a magnitude and a scale that fit. -/
def make? (negative : Bool) (magnitude scale : Nat) : Option Decimal :=
  if h : magnitude < bound ∧ scale ≤ 28 then some ⟨negative, magnitude, scale, h.1, h.2⟩
  else none

/-- The decimal 0. -/
def zero : Decimal := ⟨false, 0, 0, by decide, by decide⟩

/-- The value in units of `10 ^ -scale`. -/
def coefficient (d : Decimal) : Int := if d.negative then -(d.magnitude : Int) else d.magnitude

/-- The value in units of `10 ^ -28`, the finest that any decimal needs. -/
def units (d : Decimal) : Int := d.coefficient * Nat.pow 10 (28 - d.scale)

/-- Decimals are ordered by value. -/
instance : Ord Decimal := ⟨fun a b => compare a.units b.units⟩

/-- Equality of values. -/
def equal (a b : Decimal) : Bool := a.units == b.units

/-! ### Printing -/

/-- All digits of the scale; at least one digit stands before the point. -/
def toChars (d : Decimal) : List Char :=
  let digits := Text.padZeros (d.scale + 1) (Text.decimalDigits d.magnitude)
  let places := digits.length - d.scale
  let body :=
    if d.scale = 0 then digits else digits.take places ++ '.' :: digits.drop places
  if d.negative then '-' :: body else body

/-- All digits of the scale; at least one digit stands before the point. -/
def text (d : Decimal) : String := String.ofList d.toChars

/-! ### Reading -/

/-- Why a text is not a decimal. -/
inductive Problem where
  | empty
  | noDigits
  | unknownCharacter
  | twoPoints
  | leadingSeparator
  | tooManyDigits
  | roundingOverflow
  /-- No exponent where one is needed, or one that is no number. -/
  | unreadable
  | exponent (found : Nat)
  | tooLarge
  deriving DecidableEq, Repr

/-- The wording of a problem. -/
def Problem.message : Problem → String
  | .empty => "Invalid decimal: empty"
  | .noDigits => "Invalid decimal: no digits found"
  | .unknownCharacter => "Invalid decimal: unknown character"
  | .twoPoints => "Invalid decimal: two decimal points"
  | .leadingSeparator => "Invalid decimal: must start lead with a number"
  | .tooManyDigits => "Invalid decimal: overflow from too many digits"
  | .roundingOverflow => "Invalid decimal: overflow from mantissa after rounding"
  | .unreadable => "Failed to parse"
  | .exponent e =>
    "Scale exceeds the maximum precision allowed: " ++ toString e ++ " > 28"
  | .tooLarge => "Number exceeds maximum value that can be represented."

/-- The complaint about a character that may not stand where it does. -/
def stranger (c : Char) : Problem :=
  if c = '.' then .twoPoints else if c = '_' then .leadingSeparator else .unknownCharacter

/-- Checks what follows the digit that was rounded away. -/
def checkRest : List Char → Except Problem Unit
  | [] => .ok ()
  | c :: rest =>
    if (Text.digit? c).isSome ∨ c = '_' then checkRest rest else .error (stranger c)

/-- The digits read so far, with the next one rounded into them, a half upwards. -/
def roundOff (m scale : Nat) : List Char → Except Problem (Nat × Nat)
  | [] => .ok (m, scale)
  | c :: rest => do
    let d ← match Text.digit? c with
      | some d => pure d
      | none => if c = '_' then pure 0 else .error (stranger c)
    let rounded ←
      if d < 5 then pure (m, scale)
      else if m + 1 < bound then pure (m + 1, scale)
      else if scale = 0 then .error .roundingOverflow
      else pure ((m + 1 + 4) / 10, scale - 1)
    checkRest rest
    return rounded

/-- Whether the magnitude without its last digit left too little room in 64 bits to go on. -/
def isLong (m : Nat) : Bool := 0x199999999999989A ≤ m / 10

/-- Reads digits into a magnitude and a scale. Once the scale is 28 the next character is rounded
away with all that follow, and so is a fractional digit that would leave 96 bits. A separator there
is passed over if the magnitude is long, and stands for the digit 0 otherwise. -/
def readDigits :
    (point digitSeen : Bool) → (m scale : Nat) → List Char → Except Problem (Nat × Nat)
  | _, digitSeen, m, scale, [] => if digitSeen then .ok (m, scale) else .error .noDigits
  | point, digitSeen, m, scale, c :: rest =>
    if scale = 28 then
      roundOff m scale (if isLong m then (c :: rest).dropWhile (· = '_') else c :: rest)
    else match Text.digit? c with
      | some d =>
        if m * 10 + d < bound then
          readDigits point true (m * 10 + d) (if point then scale + 1 else 0) rest
        else if point then roundOff m scale (c :: rest)
        else .error .tooManyDigits
      | none =>
        if c = '.' ∧ !point then readDigits true digitSeen m scale rest
        else if c = '_' ∧ digitSeen then readDigits point digitSeen m scale rest
        else .error (stranger c)

/-- The decimal of a sign, a magnitude and a scale, unless they are too large. -/
def fitted (negative : Bool) (m scale : Nat) : Except Problem Decimal :=
  match make? negative m scale with
  | some d => .ok d
  | none => .error .tooLarge

/-- The decimal of a sign and the digits after it. Zero is written with or without sign and has
none. -/
def ofDigits (negative : Bool) (s : List Char) : Except Problem Decimal := do
  let (m, scale) ← readDigits false false 0 0 s
  fitted (negative && m != 0) m scale

/-- A decimal without exponent. -/
def readPlain : List Char → Except Problem Decimal
  | [] => .error .empty
  | '-' :: rest => ofDigits true rest
  | '+' :: rest => ofDigits false rest
  | s => ofDigits false s

/-- A quotient rounded to the nearest natural, a half upwards. -/
def halfUp (num den : Nat) : Nat := (2 * num + den) / (2 * den)

/-- A decimal divided by a power of ten. Digits that do not fit are first rounded away; the sign
stays even if nothing else does. -/
def shiftDown (d : Decimal) (e : Nat) : Except Problem Decimal :=
  if d.scale + e ≤ 28 then fitted d.negative d.magnitude (d.scale + e)
  else fitted d.negative (halfUp d.magnitude (Nat.pow 10 (d.scale + e - 28))) 28

/-- A decimal multiplied by a power of ten. -/
def shiftUp (d : Decimal) (e : Nat) : Except Problem Decimal :=
  if e ≤ d.scale then fitted d.negative d.magnitude (d.scale - e)
  else fitted d.negative (d.magnitude * Nat.pow 10 (e - d.scale)) 0

/-- A decimal with an exponent. -/
def readScientific (s : List Char) : Except Problem Decimal :=
  match s.span (fun c => c ≠ 'e' ∧ c ≠ 'E') with
  | (_, []) => .error .unreadable
  | (base, _ :: tail) => do
    let d ← readPlain base
    let (down, digits) := match tail with
      | '-' :: rest => (true, rest)
      | rest => (false, rest)
    match Whole.readUInt32? digits with
    | none => .error .unreadable
    | some e =>
      if 28 < e then .error (.exponent e)
      else if down then shiftDown d e
      else shiftUp d e

/-- The decimal that a text stands for, with or without an exponent. -/
def read (s : List Char) : Except Problem Decimal :=
  match readPlain s with
  | .ok d => .ok d
  | .error _ => readScientific s

end Decimal

end EntityQuery

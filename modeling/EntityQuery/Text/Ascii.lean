/-!
ASCII digits, hexadecimal digits and letter case. Names are compared after folding, which changes
the letters `A` to `Z` and nothing else.
-/

namespace EntityQuery.Text

/-- The value of a decimal digit. -/
def digit? (c : Char) : Option Nat :=
  if '0' ≤ c ∧ c ≤ '9' then some (c.toNat - '0'.toNat) else none

/-- The value of a hexadecimal digit, in either case. -/
def hexDigit? (c : Char) : Option Nat :=
  if '0' ≤ c ∧ c ≤ '9' then some (c.toNat - '0'.toNat)
  else if 'a' ≤ c ∧ c ≤ 'f' then some (c.toNat - 'a'.toNat + 10)
  else if 'A' ≤ c ∧ c ≤ 'F' then some (c.toNat - 'A'.toNat + 10)
  else none

/-- The digit of a number below 16, in lower case. -/
def hexDigit (n : Nat) : Char :=
  if n < 10 then Char.ofNat ('0'.toNat + n) else Char.ofNat ('a'.toNat + (n - 10))

/-- The decimal digits of a number. -/
def decimalDigits (n : Nat) : List Char :=
  if n < 10 then [Char.ofNat ('0'.toNat + n)]
  else decimalDigits (n / 10) ++ [Char.ofNat ('0'.toNat + n % 10)]
termination_by n

/-- A number in decimal, with a minus sign if it is negative. -/
def decimalInt (i : Int) : List Char :=
  if i < 0 then '-' :: decimalDigits i.natAbs else decimalDigits i.natAbs

/-- Digits filled up with zeros on the left to the given width. -/
def padZeros (width : Nat) (digits : List Char) : List Char :=
  List.replicate (width - digits.length) '0' ++ digits

/-- The number that a list of digits denotes, after the digits already read. -/
def digitsValue (digits : List Nat) (before : Nat) : Nat :=
  digits.foldl (fun acc d => acc * 10 + d) before

/-- Lower case for `A` to `Z`; every other character stays. -/
def foldChar (c : Char) : Char :=
  if 'A' ≤ c ∧ c ≤ 'Z' then Char.ofNat (c.toNat + 32) else c

/-- A text with its ASCII letters in lower case. -/
def fold (s : String) : String :=
  String.ofList (s.toList.map foldChar)

/-- Whether two texts differ in ASCII case at most. -/
def sameFolded (a b : String) : Bool :=
  fold a == fold b

/-- The digits at the start of a text, as numbers, and the rest. -/
def takeDigits : List Char → List Nat × List Char
  | [] => ([], [])
  | c :: rest =>
    match digit? c with
    | none => ([], c :: rest)
    | some d => let (ds, after) := takeDigits rest; (d :: ds, after)

/-- The number of bytes of a text in UTF-8. -/
def byteCount (s : List Char) : Nat :=
  s.foldl (fun n c => n + c.utf8Size) 0

/-- The bytes of a text in UTF-8. -/
def bytes (s : List Char) : List UInt8 :=
  s.flatMap String.utf8EncodeChar

end EntityQuery.Text

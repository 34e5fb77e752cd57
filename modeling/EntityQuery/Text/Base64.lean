import EntityQuery.Text.Ascii

/-!
Bytes as text in the standard alphabet of base 64, four symbols for three bytes, filled up with
`=` to a multiple of four. The reader accepts exactly what the printer writes: padding has to be
there and the bits that no byte uses have to be zero.
-/

namespace EntityQuery.Base64

/-- Why a text does not stand for bytes. Symbols are given as byte values. -/
inductive Problem where
  /-- A byte outside the alphabet, or padding where a symbol is needed. -/
  | symbol (byte : UInt8) (offset : Nat)
  /-- A last group of one symbol. -/
  | length (count : Nat)
  /-- The last group is not filled up. -/
  | padding
  /-- The last symbol has bits that belong to no byte. -/
  | lastSymbol (byte : UInt8) (offset : Nat)
  deriving DecidableEq, Repr

/-- The wording of a problem. -/
def Problem.message : Problem → String
  | .symbol b offset =>
    "Invalid symbol " ++ toString b.toNat ++ ", offset " ++ toString offset ++ "."
  | .length n => "Invalid input length: " ++ toString n
  | .padding => "Invalid padding"
  | .lastSymbol b offset =>
    "Invalid last symbol " ++ toString b.toNat ++ ", offset " ++ toString offset ++ "."

/-- The symbol of a six bit number. -/
def symbol (n : Nat) : Char :=
  if n < 26 then Char.ofNat ('A'.toNat + n)
  else if n < 52 then Char.ofNat ('a'.toNat + (n - 26))
  else if n < 62 then Char.ofNat ('0'.toNat + (n - 52))
  else if n = 62 then '+' else '/'

/-- The six bit number of a symbol. -/
def index? (b : UInt8) : Option Nat :=
  let n := b.toNat
  if 65 ≤ n ∧ n ≤ 90 then some (n - 65)
  else if 97 ≤ n ∧ n ≤ 122 then some (n - 97 + 26)
  else if 48 ≤ n ∧ n ≤ 57 then some (n - 48 + 52)
  else if n = 43 then some 62
  else if n = 47 then some 63
  else none

/-- The padding byte `=`. -/
def pad : UInt8 := 61

/-! ### Printing -/

/-- The text of a list of bytes. -/
def encodeChars : List UInt8 → List Char
  | [] => []
  | [a] => [symbol (a.toNat / 4), symbol (a.toNat % 4 * 16), '=', '=']
  | [a, b] =>
    [symbol (a.toNat / 4), symbol (a.toNat % 4 * 16 + b.toNat / 16),
      symbol (b.toNat % 16 * 4), '=']
  | a :: b :: c :: rest =>
    symbol (a.toNat / 4) :: symbol (a.toNat % 4 * 16 + b.toNat / 16) ::
      symbol (b.toNat % 16 * 4 + c.toNat / 64) :: symbol (c.toNat % 64) :: encodeChars rest

/-- The text of a list of bytes. -/
def encode (bytes : List UInt8) : String :=
  String.ofList (encodeChars bytes)

/-! ### Reading -/

/-- The number of a byte that stands at an offset. -/
def indexAt (offset : Nat) (b : UInt8) : Except Problem Nat :=
  match index? b with
  | some n => .ok n
  | none => .error (.symbol b offset)

/-- The symbols of the last group before its padding, with the number of padding bytes: padding
starts at the third place at the earliest, and nothing but padding follows it. `firstPad` is the
offset of the first padding byte seen. -/
def lastSymbols (start : Nat) :
    (place : Nat) → (firstPad : Option Nat) → List UInt8 → Except Problem (List Nat × Nat)
  | _, _, [] => .ok ([], 0)
  | place, firstPad, b :: rest =>
    if b = pad then
      if place < 2 then .error (.symbol b (start + place))
      else do
        let (ns, k) ← lastSymbols start (place + 1) (firstPad <|> some (start + place)) rest
        .ok (ns, k + 1)
    else
      match firstPad with
      | some offset => .error (.symbol pad offset)
      | none => do
        let n ← indexAt (start + place) b
        let (ns, k) ← lastSymbols start (place + 1) none rest
        .ok (n :: ns, k)

/-- The bytes of the last group, of at most four bytes. -/
def decodeLast (start : Nat) (group : List UInt8) : Except Problem (List UInt8) := do
  let (ns, pads) ← lastSymbols start 0 none group
  match ns with
  | [] => .ok []
  | [_] => .error (.length (start + 1))
  | [a, b] =>
    if (2 + pads) % 4 ≠ 0 then .error .padding
    else if b % 16 ≠ 0 then .error (.lastSymbol (group.getD 1 0) (start + 1))
    else .ok [UInt8.ofNat (a * 4 + b / 16)]
  | [a, b, c] =>
    if (3 + pads) % 4 ≠ 0 then .error .padding
    else if c % 4 ≠ 0 then .error (.lastSymbol (group.getD 2 0) (start + 2))
    else .ok [UInt8.ofNat (a * 4 + b / 16), UInt8.ofNat (b % 16 * 16 + c / 4)]
  | a :: b :: c :: d :: _ =>
    .ok [UInt8.ofNat (a * 4 + b / 16), UInt8.ofNat (b % 16 * 16 + c / 4),
      UInt8.ofNat (c % 4 * 64 + d)]

/-- The bytes of a text from an offset on. Every group of four but the last is made of symbols. -/
def decodeFrom (start : Nat) : List UInt8 → Except Problem (List UInt8)
  | a :: b :: c :: d :: e :: rest => do
    let na ← indexAt start a
    let nb ← indexAt (start + 1) b
    let nc ← indexAt (start + 2) c
    let nd ← indexAt (start + 3) d
    let more ← decodeFrom (start + 4) (e :: rest)
    .ok (UInt8.ofNat (na * 4 + nb / 16) :: UInt8.ofNat (nb % 16 * 16 + nc / 4) ::
      UInt8.ofNat (nc % 4 * 64 + nd) :: more)
  | group => decodeLast start group

/-- The bytes that a text stands for. A byte outside the alphabet that is left over after the
groups of four is reported before anything else. -/
def decode (text : String) : Except Problem (List UInt8) :=
  let bytes := Text.bytes text.toList
  match bytes.getLast? with
  | some b =>
    if bytes.length % 4 = 1 ∧ b ≠ pad ∧ index? b = none then
      .error (.symbol b (bytes.length - 1))
    else decodeFrom 0 bytes
  | none => .ok []

end EntityQuery.Base64

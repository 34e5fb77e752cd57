/-!
Double precision numbers as their 64 bits, with exact arithmetic behind every operation: a finite
number is `m * 2 ^ q` for naturals `m` and integers `q`, an operation computes with the exact
ratio, and `ofRatio` rounds it to the nearest number, a half to the even neighbour. The order is
the order of the integers `orderKey`, which is why it is total away from NaN.
-/

namespace EntityQuery

/-- A double precision number, given by its bits: sign, eleven bits of exponent, 52 of fraction. -/
structure Binary64 where
  bits : UInt64
  deriving DecidableEq, Repr

namespace Binary64

/-- The weight of the sign bit. -/
def signWeight : Nat := 0x8000000000000000

/-- The magnitude bits of infinity. Those of a NaN are larger, those of a finite number smaller. -/
def infinityBits : Nat := 0x7FF0000000000000

/-- Whether the sign bit is set. -/
def negative (x : Binary64) : Bool := signWeight ≤ x.bits.toNat

/-- The bits without the sign, which grow with the absolute value. -/
def magnitude (x : Binary64) : Nat := x.bits.toNat % signWeight

/-- A number from its sign and magnitude bits. -/
def ofMagnitude (negative : Bool) (magnitude : Nat) : Binary64 :=
  ⟨UInt64.ofNat (if negative then signWeight + magnitude else magnitude)⟩

/-- Whether `x` is not a number. -/
def isNaN (x : Binary64) : Bool := infinityBits < x.magnitude

/-- Whether `x` is neither infinite nor NaN. -/
def isFinite (x : Binary64) : Bool := x.magnitude < infinityBits

/-- Whether `x` is one of the two zeros. -/
def isZero (x : Binary64) : Bool := x.magnitude == 0

/-- The weight of the lowest bit of the exponent, and of the leading bit that is not written. -/
def leadingBit : Nat := 0x10000000000000

/-- Positive or negative infinity. -/
def infinity (negative : Bool) : Binary64 := ofMagnitude negative infinityBits

/-- The NaN that readers produce. -/
def nan : Binary64 := ofMagnitude false 0x7FF8000000000000

/-- The same number with the sign turned. -/
def neg (x : Binary64) : Binary64 := ofMagnitude (!x.negative) x.magnitude

/-! ### Order -/

/-- An integer that orders the numbers; both zeros have the key 0. -/
def orderKey (x : Binary64) : Int :=
  if x.negative then -(x.magnitude : Int) else x.magnitude

/-- The order of two numbers, undefined if one of them is NaN. -/
def compare? (x y : Binary64) : Option Ordering :=
  if x.isNaN || y.isNaN then none else some (compare x.orderKey y.orderKey)

/-- Numeric equality: the zeros are equal and NaN equals nothing. -/
def equal (x y : Binary64) : Bool := x.compare? y == some .eq

/-! ### Exact values and rounding -/

/-- The natural `m` and the exponent `q` with `m * 2 ^ q` the absolute value of a finite number. -/
def parts (x : Binary64) : Nat × Int :=
  let e : Nat := x.magnitude / leadingBit
  let f : Nat := x.magnitude % leadingBit
  if e = 0 then (f, -1074) else (leadingBit + f, (e : Int) - 1075)

/-- The quotient of two naturals rounded to the nearest natural, a half to the even one. -/
def roundDiv (num den : Nat) : Nat :=
  let q := num / den
  let twice := 2 * (num % den)
  if twice < den then q
  else if den < twice then q + 1
  else q + q % 2

/-- The exponent `e` with `2 ^ e ≤ num / den < 2 ^ (e + 1)`. -/
def ratioLog (num den : Nat) : Int :=
  let guess : Int := (num.log2 : Int) - den.log2
  if den <<< guess.toNat ≤ num <<< (-guess).toNat then guess else guess - 1

/-- The number nearest to `num / den`, a half going to the even neighbour. -/
def ofRatio (negative : Bool) (num den : Nat) : Binary64 :=
  if num = 0 then ofMagnitude negative 0
  else
    let q : Int := max (-1074) (ratioLog num den - 52)
    let m := roundDiv (num <<< (-q).toNat) (den <<< q.toNat)
    ofMagnitude negative (min ((q + 1074).toNat * leadingBit + m) infinityBits)

/-- The number nearest to `num / den * 2 ^ q`. -/
def ofScaled (negative : Bool) (num den : Nat) (q : Int) : Binary64 :=
  ofRatio negative (num <<< q.toNat) (den <<< (-q).toNat)

/-- The number nearest to a natural. -/
def ofNat (n : Nat) : Binary64 := ofRatio false n 1

/-- The number nearest to `m * 10 ^ e`, where `m` has `digits` digits. Exponents that are out of
reach of every number are cut short before a power is computed. -/
def ofDecimal (negative : Bool) (m digits : Nat) (e : Int) : Binary64 :=
  if m = 0 then ofMagnitude negative 0
  else if e + digits > 400 then infinity negative
  else if e + digits < -400 then ofMagnitude negative 0
  else ofRatio negative (m * Nat.pow 10 e.toNat) (Nat.pow 10 (-e).toNat)

/-- The product of two finite numbers, rounded once. -/
def mul (x y : Binary64) : Binary64 :=
  let (m, q) := x.parts
  let (n, r) := y.parts
  ofScaled (x.negative != y.negative) (m * n) 1 (q + r)

/-- The quotient of two finite numbers, the second not zero, rounded once. -/
def div (x y : Binary64) : Binary64 :=
  let (m, q) := x.parts
  let (n, r) := y.parts
  ofScaled (x.negative != y.negative) m n (q - r)

end Binary64

end EntityQuery

import EntityQuery.Number.Binary64
import EntityQuery.Text.Ascii

/-!
The shortest decimal that reads back as a given double precision number: of the decimals with the
fewest digits inside the interval of reals that round to the number, the one nearest to it. An end
of the interval belongs to it if the number's fraction is even.
-/

namespace EntityQuery.Binary64

/-- A decimal `digits * 10 ^ exponent`. -/
structure ShortDecimal where
  digits : Nat
  exponent : Int
  deriving DecidableEq, Repr

/-- The interval that rounds to `m * 2 ^ q` and the number itself, in units of `2 ^ (q - 2)`. The
lower half is half as wide where the exponent changes. -/
def interval (m : Nat) (q : Int) : Nat × Nat × Nat :=
  (if m = leadingBit ∧ -1074 < q then 4 * m - 1 else 4 * m - 2, 4 * m, 4 * m + 2)

/-- The multiple of `10 ^ e` in the interval that is nearest to the number, if there is one. -/
def onGrid? (m : Nat) (q : Int) (e : Int) : Option ShortDecimal :=
  let (lo, mid, hi) := interval m q
  -- everything is scaled so that the unit and the grid step are naturals
  let unit := Nat.pow 10 (-e).toNat <<< (q - 2).toNat
  let step := Nat.pow 10 e.toNat <<< (-(q - 2)).toNat
  let inside (n : Nat) : Bool :=
    if m % 2 = 0 then lo * unit ≤ n * step && n * step ≤ hi * unit
    else lo * unit < n * step && n * step < hi * unit
  let below := mid * unit / step
  let past := mid * unit % step
  match inside below && decide (0 < below), inside (below + 1) with
  | true, true =>
    let twice := 2 * past
    some ⟨if twice < step ∨ (twice = step ∧ below % 2 = 0) then below else below + 1, e⟩
  | true, false => some ⟨below, e⟩
  | false, true => some ⟨below + 1, e⟩
  | false, false => none

/-- The exponent `k` with `10 ^ (k - 1) ≤ m * 2 ^ q < 10 ^ k`, found by trying one estimate up. -/
def decimalPlaces (m : Nat) (q : Int) : Int :=
  -- 1233 / 4096 is slightly below the decimal logarithm of 2
  let low : Int := ((m.log2 : Int) + q) * 1233 / 4096 - 1
  let reaches (k : Int) : Bool :=
    Nat.pow 10 k.toNat <<< (-q).toNat ≤ (m <<< q.toNat) * Nat.pow 10 (-k).toNat
  (List.range 5).foldl (fun k _ => if reaches k then k + 1 else k) low

/-- The first grid, from coarse to fine, that meets the interval. -/
def firstGrid (m : Nat) (q : Int) : (tries : Nat) → (e : Int) → ShortDecimal
  | 0, e => ⟨0, e⟩
  | tries + 1, e => (onGrid? m q e).getD (firstGrid m q tries (e - 1))

/-- The shortest decimal of a finite number other than zero. -/
def shortest (x : Binary64) : ShortDecimal :=
  let (m, q) := x.parts
  firstGrid m q 20 (decimalPlaces m q)

/-! ### Text -/

/-- A decimal in digits: positional from `0.00001` to below `10 ^ 16`, otherwise with an exponent;
a whole number ends in `.0`. -/
def ShortDecimal.chars (d : ShortDecimal) : List Char :=
  let ds := Text.decimalDigits d.digits
  let places : Int := ds.length + d.exponent
  if 0 ≤ d.exponent ∧ places ≤ 16 then
    ds ++ List.replicate d.exponent.toNat '0' ++ ['.', '0']
  else if 0 < places ∧ places ≤ 16 then
    ds.take places.toNat ++ '.' :: ds.drop places.toNat
  else if -5 < places ∧ places ≤ 0 then
    '0' :: '.' :: List.replicate (-places).toNat '0' ++ ds
  else
    let e := 'e' :: Text.decimalInt (places - 1)
    match ds with
    | [] => e
    | [c] => c :: e
    | c :: rest => c :: '.' :: rest ++ e

/-- The text of a number: shortest digits, or `NaN`, `inf` and `-inf`. -/
def text (x : Binary64) : String :=
  if x.isNaN then "NaN"
  else
    let sign := if x.negative then ['-'] else []
    if !x.isFinite then String.ofList (sign ++ "inf".toList)
    else if x.isZero then String.ofList (sign ++ "0.0".toList)
    else String.ofList (sign ++ x.shortest.chars)

end EntityQuery.Binary64

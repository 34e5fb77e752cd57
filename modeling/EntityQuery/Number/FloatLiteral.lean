import EntityQuery.Number.Binary64
import EntityQuery.Text.Ascii

/-!
Double precision numbers as people write them: an optional sign, then digits with an optional
point and exponent, or `inf`, `infinity` or `nan` in any case.
-/

namespace EntityQuery.FloatLiteral

/-- Why a text is not a number. -/
inductive Problem where
  | empty
  | invalid
  deriving DecidableEq, Repr

/-- The wording of a problem. -/
def Problem.message : Problem → String
  | .empty => "cannot parse float from empty string"
  | .invalid => "invalid float literal"

/-- The exponent written in a text that begins after the digits: nothing, or `e` and an integer. -/
def exponent? : List Char → Option Int
  | [] => some 0
  | e :: rest =>
    if e = 'e' ∨ e = 'E' then
      let (negative, digits) := match rest with
        | '-' :: ds => (true, ds)
        | '+' :: ds => (false, ds)
        | ds => (false, ds)
      match Text.takeDigits digits with
      | ([], _) => none
      | (ds, []) =>
        let n : Nat := Text.digitsValue ds 0
        some (if negative then -(n : Int) else n)
      | (_, _ :: _) => none
    else none

/-- A number without its sign. -/
def unsigned? (negative : Bool) (s : List Char) : Option Binary64 :=
  let word := s.map Text.foldChar
  if word = "inf".toList ∨ word = "infinity".toList then some (Binary64.infinity negative)
  else if word = "nan".toList then some Binary64.nan
  else
    let (whole, afterWhole) := Text.takeDigits s
    let (fraction, rest) := match afterWhole with
      | '.' :: more => Text.takeDigits more
      | more => ([], more)
    if whole = [] ∧ fraction = [] then none
    else
      (exponent? rest).map fun e =>
        let digits := whole ++ fraction
        let m := Text.digitsValue digits 0
        Binary64.ofDecimal negative m (Text.decimalDigits m).length (e - fraction.length)

/-- The number that a text stands for. -/
def read : List Char → Except Problem Binary64
  | [] => .error .empty
  | c :: rest =>
    let value := match c with
      | '-' => unsigned? true rest
      | '+' => unsigned? false rest
      | c => unsigned? false (c :: rest)
    match value with
    | some x => .ok x
    | none => .error .invalid

end EntityQuery.FloatLiteral

import EntityQuery.Text.Ascii

/-!
Identifiers of 128 bits. They are written as 32 lower case hexadecimal digits in groups of 8, 4,
4, 4 and 12, and read in either case, plain, grouped, in braces or after `urn:uuid:`.
-/

namespace EntityQuery

/-- An identifier of 128 bits. -/
structure Uuid where
  bits : BitVec 128
  deriving DecidableEq, Repr

namespace Uuid

/-- The identifier whose bits are all zero; it stands for "none yet". -/
def nil : Uuid := ⟨0⟩

/-- Whether all bits are zero. -/
def isNil (u : Uuid) : Bool := u.bits == 0

/-- Identifiers are ordered as numbers, which is the order of their bytes. -/
instance : Ord Uuid := ⟨fun a b => compare a.bits.toNat b.bits.toNat⟩

/-! ### Printing -/

/-- The lowest `count` hexadecimal digits of a number. -/
def hexDigits : Nat → Nat → List Char
  | 0, _ => []
  | count + 1, n => hexDigits count (n / 16) ++ [Text.hexDigit (n % 16)]

/-- The grouped text of an identifier. -/
def toChars (u : Uuid) : List Char :=
  let n := u.bits.toNat
  hexDigits 8 (n >>> 96) ++ '-' :: hexDigits 4 (n >>> 80) ++ '-' :: hexDigits 4 (n >>> 64) ++
    '-' :: hexDigits 4 (n >>> 48) ++ '-' :: hexDigits 12 n

/-- The grouped text of an identifier. -/
def text (u : Uuid) : String := String.ofList u.toChars

/-! ### Reading -/

/-- Why a text is not an identifier. -/
inductive Problem where
  /-- A character that is neither a hexadecimal digit nor a hyphen, and its place from 1. -/
  | character (found : Char) (place : Nat)
  /-- A text without hyphens that has not 32 digits. -/
  | simpleLength (found : Nat)
  /-- A number of groups other than five. -/
  | groupCount (found : Nat)
  /-- A group of the wrong length. -/
  | groupLength (group expected found : Nat)
  deriving DecidableEq, Repr

/-- The wording of a problem. -/
def Problem.message : Problem → String
  | .character c place =>
    "invalid character: expected an optional prefix of `urn:uuid:` followed by [0-9a-fA-F-], " ++
      "found `" ++ c.toString ++ "` at " ++ toString place
  | .simpleLength n =>
    "invalid length: expected length 32 for simple format, found " ++ toString n
  | .groupCount n => "invalid group count: expected 5, found " ++ toString n
  | .groupLength g expected found =>
    "invalid group length in group " ++ toString g ++ ": expected " ++ toString expected ++
      ", found " ++ toString found

/-- The number that hexadecimal digits denote. -/
def hexValue? : Nat → List Char → Option Nat
  | acc, [] => some acc
  | acc, c :: rest => (Text.hexDigit? c).bind fun d => hexValue? (acc * 16 + d) rest

/-- The places of the hyphens in the grouped form. -/
def hyphenPlaces : List Nat := [8, 13, 18, 23]

/-- The number of a grouped text of 36 characters. -/
def grouped? (s : List Char) : Option Nat :=
  if s.length = 36 ∧ hyphenPlaces.all (fun i => s[i]? == some '-') then
    hexValue? 0 (s.take 8 ++ (s.drop 9).take 4 ++ (s.drop 14).take 4 ++ (s.drop 19).take 4 ++
      s.drop 24)
  else none

/-- The text after `urn:uuid:`. -/
def afterUrn? (s : List Char) : Option (List Char) :=
  "urn:uuid:".toList.isPrefixOf? s

/-- The text between braces. -/
def insideBraces? : List Char → Option (List Char)
  | '\x7b' :: rest => if rest.getLast? = some '\x7d' then some rest.dropLast else none
  | _ => none

/-- The part of 36 bytes that braces or the prefix surround, if there is one. -/
def wrapped? (s : List Char) : Option (List Char) :=
  match insideBraces? s <|> afterUrn? s with
  | some inner => if Text.byteCount inner = 36 then some inner else none
  | none => none

/-- The number of an identifier in one of its four forms. -/
def value? (s : List Char) : Option Nat :=
  if s.length = 32 then hexValue? 0 s
  else match wrapped? s with
    | some inner => grouped? inner
    | none => grouped? s

/-- The first character that is no hexadecimal digit and no hyphen, with the bytes before it. -/
def firstStranger : Nat → List Char → Option (Char × Nat)
  | _, [] => none
  | before, c :: rest =>
    if c = '-' ∨ (Text.hexDigit? c).isSome then firstStranger (before + c.utf8Size) rest
    else some (c, before)

/-- The places of the hyphens of a text, counted from `i`. -/
def hyphensFrom : Nat → List Char → List Nat
  | _, [] => []
  | i, c :: rest => if c = '-' then i :: hyphensFrom (i + 1) rest else hyphensFrom (i + 1) rest

/-- The first of the groups 0 to 3 whose hyphen is not at its place, with its length. -/
def firstBadGroup : (group start : Nat) → List (Nat × Nat) → Option (Nat × Nat × Nat)
  | _, _, [] => none
  | g, start, (found, expected) :: rest =>
    if found = expected then firstBadGroup (g + 1) (expected + 1) rest
    else some (g, expected - start, found - start)

/-- What is wrong with a text that is not an identifier. -/
def diagnose (text : List Char) : Problem :=
  let s := (wrapped? text).getD text
  let (body, offset, simple) :=
    match insideBraces? s, afterUrn? s with
    | some inner, _ => (inner, 1, false)
    | none, some rest => (rest, 9, false)
    | none, none => (s, 0, true)
  match firstStranger 0 body with
  | some (c, before) => .character c (before + offset + 1)
  | none =>
    let hyphens := hyphensFrom 0 body
    if hyphens = [] ∧ simple then .simpleLength (Text.byteCount s)
    else if hyphens.length ≠ 4 then .groupCount (hyphens.length + 1)
    else match firstBadGroup 0 0 (hyphens.zip hyphenPlaces) with
      | some (g, expected, found) => .groupLength g expected found
      | none => .groupLength 4 12 (Text.byteCount s - 24)

/-- The identifier that a text stands for. -/
def read (text : String) : Except Problem Uuid :=
  match value? text.toList with
  | some n => .ok ⟨BitVec.ofNat 128 n⟩
  | none => .error (diagnose text.toList)

end Uuid

end EntityQuery

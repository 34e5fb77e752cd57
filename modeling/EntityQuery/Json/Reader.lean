import EntityQuery.Json.Basic
import EntityQuery.Text.Ascii

/-!
Reading of JSON texts. A failure says where it was noticed: the text that was still to be read and
the number of its bytes that belong to the cause. From that the line and the column, counted in
bytes, are computed once at the end.
-/

namespace EntityQuery.Json

/-- What can be wrong with a text. -/
inductive Problem where
  | endInList
  | endInObject
  | endInString
  | endInValue
  | expectedColon
  | expectedListEnd
  | expectedObjectEnd
  | expectedWord
  | expectedValue
  | invalidEscape
  | invalidNumber
  | numberOutOfRange
  | controlCharacter
  | keyNotString
  | loneSurrogate
  | trailingComma
  | trailingText
  | unfinishedPair
  | tooDeep
  deriving DecidableEq, Repr

/-- The wording of a problem. -/
def Problem.message : Problem → String
  | .endInList => "EOF while parsing a list"
  | .endInObject => "EOF while parsing an object"
  | .endInString => "EOF while parsing a string"
  | .endInValue => "EOF while parsing a value"
  | .expectedColon => "expected `:`"
  | .expectedListEnd => "expected `,` or `]`"
  | .expectedObjectEnd => "expected `,` or `\x7d`"
  | .expectedWord => "expected ident"
  | .expectedValue => "expected value"
  | .invalidEscape => "invalid escape"
  | .invalidNumber => "invalid number"
  | .numberOutOfRange => "number out of range"
  | .controlCharacter => "control character (\\u0000-\\u001F) found while parsing a string"
  | .keyNotString => "key must be a string"
  | .loneSurrogate => "lone leading surrogate in hex escape"
  | .trailingComma => "trailing comma"
  | .trailingText => "trailing characters"
  | .unfinishedPair => "unexpected end of hex escape"
  | .tooDeep => "recursion limit exceeded"

/-- A problem, the text left when it was noticed and how many bytes of it belong to the cause. -/
structure Failure where
  problem : Problem
  rest : List Char
  taken : Nat

/-- A reader takes something off the start of a text. -/
abbrev Reader (α : Type) := List Char → Except Failure (α × List Char)

/-- Fails at the next character, or at the end of the text if nothing is left. -/
def failAt {α : Type} (problem : Problem) (rest : List Char) : Except Failure α :=
  .error ⟨problem, rest, if rest = [] then 0 else 1⟩

/-- A text without the blanks that may stand between tokens. -/
def skipBlanks : List Char → List Char
  | [] => []
  | c :: rest =>
    if c = ' ' ∨ c = '\n' ∨ c = '\t' ∨ c = '\r' then skipBlanks rest else c :: rest

/-! ### Words -/

/-- The rest of a word such as `null`. -/
def word : (expected : List Char) → Reader Unit
  | [], s => .ok ((), s)
  | _ :: _, [] => .error ⟨.endInValue, [], 0⟩
  | c :: expected, d :: rest =>
    if c = d then word expected rest else failAt .expectedWord (d :: rest)

/-! ### Strings -/

/-- The number of four hexadecimal digits. -/
def hexUnit : Reader Nat := fun s =>
  if Text.byteCount (s.take 4) < 4 then .error ⟨.endInString, [], 0⟩
  else
    match (s.take 4).mapM Text.hexDigit? with
    | some ds => .ok (ds.foldl (fun acc d => acc * 16 + d) 0, s.drop 4)
    | none => .error ⟨.invalidEscape, s, 4⟩

/-- One fixed character inside a pair of escapes. -/
def pairMark (c : Char) : Reader Unit
  | [] => .error ⟨.endInString, [], 0⟩
  | d :: rest => if c = d then .ok ((), rest) else failAt .unfinishedPair (d :: rest)

/-- The character of a `\u` escape, which may take a second one to complete a pair. -/
def unicodeEscape : Reader Char := fun s => do
  let (n, s) ← hexUnit s
  if 0xDC00 ≤ n ∧ n ≤ 0xDFFF then .error ⟨.loneSurrogate, s, 0⟩
  else if 0xD800 ≤ n ∧ n ≤ 0xDBFF then do
    let (_, s) ← pairMark '\\' s
    let (_, s) ← pairMark 'u' s
    let (m, s) ← hexUnit s
    if 0xDC00 ≤ m ∧ m ≤ 0xDFFF then
      .ok (Char.ofNat ((n - 0xD800) * 0x400 + (m - 0xDC00) + 0x10000), s)
    else .error ⟨.loneSurrogate, s, 0⟩
  else .ok (Char.ofNat n, s)

/-- The character of the escape that begins after a backslash. -/
def escape : Reader Char
  | [] => .error ⟨.endInString, [], 0⟩
  | c :: rest =>
    if c = '"' ∨ c = '\\' ∨ c = '/' then .ok (c, rest)
    else if c = 'b' then .ok (Char.ofNat 8, rest)
    else if c = 'f' then .ok (Char.ofNat 12, rest)
    else if c = 'n' then .ok ('\n', rest)
    else if c = 'r' then .ok ('\r', rest)
    else if c = 't' then .ok ('\t', rest)
    else if c = 'u' then unicodeEscape rest
    else failAt .invalidEscape (c :: rest)

/-- The characters up to the closing quote, in front of which `done` has been read, backwards. The
fuel is the length of the text. -/
def stringBody : (fuel : Nat) → (done : List Char) → Reader String
  | _, _, [] => .error ⟨.endInString, [], 0⟩
  | 0, _, s => .error ⟨.endInString, s, 0⟩
  | fuel + 1, done, c :: rest =>
    if c = '"' then .ok (String.ofList done.reverse, rest)
    else if c = '\\' then do
      let (d, rest) ← escape rest
      stringBody fuel (d :: done) rest
    else if c.toNat < 32 then failAt .controlCharacter (c :: rest)
    else stringBody fuel (c :: done) rest

/-- The text after an opening quote. -/
def quoted : Reader String := fun s => stringBody s.length [] s

/-! ### Numbers -/

/-- The largest significand that is kept exactly. -/
def maxSignificand : Nat := 0xFFFFFFFFFFFFFFFF

/-- Reads digits into a significand as long as it fits, then skips further digits. Gives the
significand, the digits read into it, the digits skipped and the rest. -/
def significand : (m : Nat) → List Char → Nat × Nat × Nat × List Char
  | m, [] => (m, 0, 0, [])
  | m, c :: rest =>
    match Text.digit? c with
    | none => (m, 0, 0, c :: rest)
    | some d =>
      if m * 10 + d ≤ maxSignificand then
        let (m, read, skipped, rest) := significand (m * 10 + d) rest
        (m, read + 1, skipped, rest)
      else
        let (ds, rest) := Text.takeDigits (c :: rest)
        (m, 0, ds.length, rest)

/-- `f * 10 ^ e` in double precision: powers that have a number of their own are multiplied or
divided by at once, smaller ones in steps. Undefined if the result is too large. -/
def scale (f : Binary64) (e : Int) : Option Binary64 :=
  let power (n : Nat) := Binary64.ofDecimal false 1 1 n
  if -308 ≤ e ∧ e ≤ 308 then
    if 0 ≤ e then
      let g := f.mul (power e.toNat)
      if g.isFinite then some g else none
    else some (f.div (power (-e).toNat))
  else if f.isZero then some f
  else if 0 ≤ e then none
  else scale (f.div (power 308)) (e + 308)
termination_by (-e).toNat
decreasing_by omega

/-- The number `m * 10 ^ e` with a sign. -/
def floatOf (positive : Bool) (m : Nat) (e : Int) : Reader JsonNumber := fun s =>
  match scale (Binary64.ofNat m) e with
  | some f => .ok (.float (if positive then f else f.neg), s)
  | none => .error ⟨.numberOutOfRange, s, 0⟩

/-- The largest exponent that is read as a number. -/
def maxExponent : Nat := 0x7FFFFFFF

/-- Reads an exponent; a digit that leaves the range ends it and gives nothing. -/
def exponentDigits : (n : Nat) → List Char → Option Nat × List Char
  | n, [] => (some n, [])
  | n, c :: rest =>
    match Text.digit? c with
    | none => (some n, c :: rest)
    | some d => if n * 10 + d ≤ maxExponent then exponentDigits (n * 10 + d) rest else (none, rest)

/-- The exponent after `e`, and the number. -/
def afterExponentMark (positive : Bool) (m : Nat) (start : Int) : Reader JsonNumber := fun s =>
  let (up, s) := match s with
    | '+' :: rest => (true, rest)
    | '-' :: rest => (false, rest)
    | rest => (true, rest)
  match s with
  | [] => .error ⟨.endInValue, [], 0⟩
  | c :: rest =>
    if (Text.digit? c).isNone then failAt .invalidNumber (c :: rest)
    else
      match exponentDigits 0 (c :: rest) with
      | (some e, rest) => floatOf positive m (if up then start + e else start - e) rest
      | (none, rest) =>
        if m ≠ 0 ∧ up then .error ⟨.numberOutOfRange, rest, 0⟩
        else floatOf positive 0 0 (Text.takeDigits rest).2

/-- Whether a text begins with the mark of an exponent. -/
def isExponentMark (c : Char) : Bool := c == 'e' || c == 'E'

/-- The fraction after a point, and the number. -/
def afterPoint (positive : Bool) (m : Nat) (start : Int) : Reader JsonNumber := fun s =>
  let (m, read, skipped, rest) := significand m s
  if read = 0 ∧ skipped = 0 then
    if rest = [] then .error ⟨.endInValue, [], 0⟩ else failAt .invalidNumber rest
  else
    let e := start - read
    match rest with
    | c :: more =>
      if isExponentMark c then afterExponentMark positive m e more else floatOf positive m e rest
    | [] => floatOf positive m e rest

/-- The number whose whole digits have been read into `m`, `skipped` of them being left out. -/
def afterWhole (positive : Bool) (m skipped : Nat) : Reader JsonNumber := fun s =>
  let plain : Except Failure (JsonNumber × List Char) :=
    if 0 < skipped then floatOf positive m skipped s
    else if positive then .ok (.natural (UInt64.ofNat m), s)
    else if 0 < m ∧ m ≤ 0x8000000000000000 then .ok (.negative (Int64.ofInt (-(m : Int))), s)
    else .ok (.float (Binary64.ofNat m).neg, s)
  match s with
  | '.' :: rest => afterPoint positive m skipped rest
  | c :: rest => if isExponentMark c then afterExponentMark positive m skipped rest else plain
  | [] => plain

/-- A number after its sign. A leading zero stands alone. -/
def numeral (positive : Bool) : Reader JsonNumber
  | [] => .error ⟨.endInValue, [], 0⟩
  | c :: rest =>
    if c = '0' then
      match rest with
      | d :: _ =>
        if (Text.digit? d).isSome then failAt .invalidNumber rest else afterWhole positive 0 0 rest
      | [] => afterWhole positive 0 0 rest
    else if (Text.digit? c).isSome then
      let (m, _, skipped, rest) := significand 0 (c :: rest)
      afterWhole positive m skipped rest
    else failAt .invalidNumber (c :: rest)

/-! ### Documents -/

/-- The items up to the closing bracket. The fuel is the length of the text. -/
def items (item : Reader Json) : (fuel : Nat) → (first : Bool) → Reader (List Json)
  | 0, _, s => .error ⟨.endInList, s, 0⟩
  | fuel + 1, first, s => do
    match skipBlanks s with
    | [] => .error ⟨.endInList, [], 0⟩
    | ']' :: rest => .ok ([], rest)
    | c :: rest =>
      let s ←
        if first then pure (c :: rest)
        else if c = ',' then
          match skipBlanks rest with
          | [] => .error ⟨.endInValue, [], 0⟩
          | ']' :: rest => failAt .trailingComma (']' :: rest)
          | rest => pure rest
        else failAt .expectedListEnd (c :: rest)
      let (value, s) ← item s
      let (more, s) ← items item fuel false s
      .ok (value :: more, s)

/-- The members up to the closing brace, as they stand. The fuel is the length of the text. -/
def members (item : Reader Json) : (fuel : Nat) → (first : Bool) → Reader (List (String × Json))
  | 0, _, s => .error ⟨.endInObject, s, 0⟩
  | fuel + 1, first, s => do
    match skipBlanks s with
    | [] => .error ⟨.endInObject, [], 0⟩
    | '\x7d' :: rest => .ok ([], rest)
    | c :: rest =>
      let s ←
        if first then
          if c = '"' then pure rest else failAt .keyNotString (c :: rest)
        else if c = ',' then
          match skipBlanks rest with
          | [] => .error ⟨.endInValue, [], 0⟩
          | '"' :: rest => pure rest
          | '\x7d' :: rest => failAt .trailingComma ('\x7d' :: rest)
          | rest => failAt .keyNotString rest
        else failAt .expectedObjectEnd (c :: rest)
      let (key, s) ← quoted s
      match skipBlanks s with
      | [] => .error ⟨.endInObject, [], 0⟩
      | ':' :: s =>
        let (value, s) ← item s
        let (more, s) ← members item fuel false s
        .ok ((key, value) :: more, s)
      | s => failAt .expectedColon s

/-- A document in which containers may still be nested to less than `depth`. -/
def value : (depth : Nat) → Reader Json
  | depth, s =>
    match skipBlanks s with
    | [] => .error ⟨.endInValue, [], 0⟩
    | c :: rest =>
      if c = 'n' then do let (_, s) ← word ['u', 'l', 'l'] rest; .ok (.null, s)
      else if c = 't' then do let (_, s) ← word ['r', 'u', 'e'] rest; .ok (.bool true, s)
      else if c = 'f' then do let (_, s) ← word ['a', 'l', 's', 'e'] rest; .ok (.bool false, s)
      else if c = '-' then do let (n, s) ← numeral false rest; .ok (.number n, s)
      else if (Text.digit? c).isSome then do
        let (n, s) ← numeral true (c :: rest)
        .ok (.number n, s)
      else if c = '"' then do let (t, s) ← quoted rest; .ok (.string t, s)
      else if c = '[' ∨ c = '\x7b' then
        match depth with
        | 0 | 1 => failAt .tooDeep (c :: rest)
        | depth + 2 =>
          if c = '[' then do
            let (found, s) ← items (value (depth + 1)) (rest.length + 1) true rest
            .ok (.array found, s)
          else do
            let (found, s) ← members (value (depth + 1)) (rest.length + 1) true rest
            .ok (ofMembers found, s)
      else failAt .expectedValue (c :: rest)

/-- A document and nothing else. -/
def whole (s : List Char) : Except Failure Json := do
  let (j, rest) ← value 128 s
  match skipBlanks rest with
  | [] => .ok j
  | rest => failAt .trailingText rest

/-! ### Positions -/

/-- A problem and the place where it was noticed; lines count from 1, columns in bytes. -/
structure Error where
  problem : Problem
  line : Nat
  column : Nat
  deriving DecidableEq, Repr

/-- The wording of an error. -/
def Error.message (e : Error) : String :=
  e.problem.message ++ " at line " ++ toString e.line ++ " column " ++ toString e.column

/-- The line and the column after some bytes. -/
def position (before : List UInt8) : Nat × Nat :=
  before.foldl (fun p b => if b = 10 then (p.1 + 1, 0) else (p.1, p.2 + 1)) (1, 0)

/-- The document that a text stands for. -/
def read (text : String) : Except Error Json :=
  let s := text.toList
  match whole s with
  | .ok j => .ok j
  | .error f =>
    let (line, column) :=
      position ((Text.bytes s).take (Text.byteCount s - Text.byteCount f.rest + f.taken))
    .error ⟨f.problem, line, column⟩

end EntityQuery.Json

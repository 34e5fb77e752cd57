import EntityQuery.Calendar.Instant
import EntityQuery.Text.Blank

/-!
Dates and points in time as people and machines write them. A reader is a function on the rest of
a text; the layouts below are put together from readers of a number, a sign and a separator.
-/

namespace EntityQuery.Calendar

/-- Why a text is not a date or a point in time. -/
inductive Problem where
  | outOfRange
  /-- The offset leads out of the calendar. -/
  | impossible
  | invalid
  | tooShort
  | tooLong
  deriving DecidableEq, Repr

/-- The wording of a problem. -/
def Problem.message : Problem → String
  | .outOfRange => "input is out of range"
  | .impossible => "no possible date and time matching input"
  | .invalid => "input contains invalid characters"
  | .tooShort => "premature end of input"
  | .tooLong => "trailing input"

/-- A reader takes something off the start of a text. -/
abbrev Reader (α : Type) := List Char → Except Problem (α × List Char)

/-! ### Parts -/

/-- At most `max` digits from the start of a text, as numbers, and the rest. -/
def digitsUpTo : (max : Nat) → List Char → List Nat × List Char
  | 0, s => ([], s)
  | _ + 1, [] => ([], [])
  | max + 1, c :: rest =>
    match Text.digit? c with
    | none => ([], c :: rest)
    | some d => let (ds, after) := digitsUpTo max rest; (d :: ds, after)

/-- A number of `min` to `max` digits. -/
def number (min max : Nat) : Reader Nat := fun s =>
  if Text.byteCount s < min then .error .tooShort
  else
    let (ds, rest) := digitsUpTo max s
    if ds.length < min then .error .invalid
    else .ok (Text.digitsValue ds 0, rest)

/-- A number that has to lie in a range. -/
def bounded (low high : Nat) (read : Reader Nat) : Reader Nat := fun s => do
  let (n, rest) ← read s
  if low ≤ n ∧ n ≤ high then .ok (n, rest) else .error .outOfRange

/-- One fixed character. -/
def mark (c : Char) : Reader Unit
  | [] => .error .tooShort
  | d :: rest => if c = d then .ok ((), rest) else .error .invalid

/-- A reader that first skips blanks. -/
def afterBlanks {α : Type} (read : Reader α) : Reader α := fun s => read (Text.trimStart s)

/-- A year that fits 32 bits: a sign and any number of digits, or up to four digits. -/
def year : Reader Int := fun s =>
  let signed (negative : Bool) (digits : List Char) : Except Problem (Int × List Char) := do
    let (n, rest) ← number 1 digits.length.succ digits
    let y : Int := if negative then -(n : Int) else n
    if -0x80000000 ≤ y ∧ y < 0x80000000 then .ok (y, rest) else .error .outOfRange
  match s with
  | '-' :: digits => signed true digits
  | '+' :: digits => signed false digits
  | digits => do let (n, rest) ← number 1 4 digits; .ok ((n : Int), rest)

/-- The fraction of a second in nanoseconds, if a point follows; digits past the ninth are read
and dropped. -/
def fraction : Reader Nat
  | '.' :: s =>
    if s = [] then .error .tooShort
    else
      let (ds, rest) := digitsUpTo 9 s
      if ds = [] then .error .invalid
      else .ok (Text.digitsValue ds 0 * Nat.pow 10 (9 - ds.length), (Text.takeDigits rest).2)
  | s => .ok (0, s)

/-- The date of three numbers. -/
def dateOf (y : Int) (m d : Nat) : Except Problem Date :=
  match Date.make? y m d with
  | some date => .ok date
  | none => .error .outOfRange

/-- The point of a date and a time of day, whose second may be 60. -/
def instantOf (date : Date) (hour minute second nano : Nat) : Except Problem Instant :=
  let (s, n) := if second = 60 then (59, nano + nanosPerSecond) else (second, nano)
  match Instant.make? date (hour * 3600 + minute * 60 + s) n with
  | some t => .ok t
  | none => .error .outOfRange

/-- Two digits. The text is too short if it has less than two bytes. -/
def pair : List Char → Except Problem (Nat × Nat × List Char)
  | a :: b :: rest =>
    match Text.digit? a, Text.digit? b with
    | some x, some y => .ok (x, y, rest)
    | _, _ => .error .invalid
  | s => .error (if Text.byteCount s < 2 then .tooShort else .invalid)

/-- An offset in minutes: `Z`, or a sign, hours, a separator and minutes. -/
def offset (separator : List Char → Except Problem (List Char)) : Reader Int
  | [] => .error .tooShort
  | c :: s =>
    if c = 'Z' ∨ c = 'z' then .ok (0, s)
    else if c = '+' ∨ c = '-' ∨ c = '\u2212' then do
      let (h, h', s) ← pair s
      let s ← separator s
      let (m, m', s) ← pair s
      if 5 < m then .error .outOfRange
      else
        let minutes : Nat := (h * 10 + h') * 60 + m * 10 + m'
        .ok (if c = '+' then (minutes : Int) else -(minutes : Int), s)
    else .error .invalid

/-- The point that a clock with an offset of less than a day shows. -/
def atOffset (shown : Instant) (minutes : Int) : Except Problem Instant :=
  if minutes.natAbs < 24 * 60 then
    match shown.behind? minutes with
    | some t => .ok t
    | none => .error .impossible
  else .error .outOfRange

/-- The separator between date and time of day: `T`, `t` or a space. -/
def dateTimeMark : Reader Unit
  | [] => .error .tooShort
  | c :: rest => if c = 'T' ∨ c = 't' ∨ c = ' ' then .ok ((), rest) else .error .invalid

/-- Nothing may follow. -/
def finish {α : Type} (x : α) : List Char → Except Problem α
  | [] => .ok x
  | _ :: _ => .error .tooLong

/-! ### Layouts -/

/-- Year, month and day with hyphens, blanks being skipped before each number. The numbers are
handed on before it is known whether there is such a day. -/
def dateNumbers : Reader (Int × Nat × Nat) := fun s => do
  let (y, s) ← afterBlanks year s
  let (_, s) ← mark '-' s
  let (m, s) ← bounded 1 12 (afterBlanks (number 1 2)) s
  let (_, s) ← mark '-' s
  let (d, s) ← bounded 1 31 (afterBlanks (number 1 2)) s
  .ok ((y, m, d), s)

/-- A date and nothing else. -/
def readDate (s : List Char) : Except Problem Date := do
  let ((y, m, d), s) ← dateNumbers s
  let (y, m, d) ← finish (y, m, d) s
  dateOf y m d

/-- A date and a time of day without offset, in universal time. Between them stands `T` or, if
`spaced`, any number of blanks. A fraction may follow if `fractional`. -/
def readLocal (spaced fractional : Bool) (s : List Char) : Except Problem Instant := do
  let ((y, m, d), s) ← dateNumbers s
  let s ← if spaced then pure (Text.trimStart s) else Prod.snd <$> mark 'T' s
  let (hour, s) ← bounded 0 23 (afterBlanks (number 1 2)) s
  let (_, s) ← mark ':' s
  let (minute, s) ← bounded 0 59 (afterBlanks (number 1 2)) s
  let (_, s) ← mark ':' s
  let (second, s) ← bounded 0 60 (afterBlanks (number 1 2)) s
  let (nano, s) ← if fractional then fraction s else pure (0, s)
  let _ ← finish () s
  instantOf (← dateOf y m d) hour minute second nano

/-- The strict layout with offset: four, two and two digits, and a time of day of two digits
each. -/
def readStrict (s : List Char) : Except Problem Instant := do
  let (y, s) ← number 4 4 s
  let (_, s) ← mark '-' s
  let (m, s) ← bounded 1 12 (number 2 2) s
  let (_, s) ← mark '-' s
  let (d, s) ← bounded 1 31 (number 2 2) s
  let (_, s) ← dateTimeMark s
  let (hour, s) ← bounded 0 23 (number 2 2) s
  let (_, s) ← mark ':' s
  let (minute, s) ← bounded 0 59 (number 2 2) s
  let (_, s) ← mark ':' s
  let (second, s) ← bounded 0 60 (number 2 2) s
  let (nano, s) ← fraction s
  let (minutes, s) ← offset (fun s => Prod.snd <$> mark ':' s) s
  let _ ← finish () s
  let shown ← instantOf (← dateOf y m d) hour minute second nano
  atOffset shown minutes

/-- The loose layout with offset, in which blanks may stand between the parts. -/
def readLoose (s : List Char) : Except Problem Instant := do
  let (y, s) ← afterBlanks year s
  let (_, s) ← afterBlanks (mark '-') s
  let (m, s) ← bounded 1 12 (afterBlanks (number 1 2)) s
  let (_, s) ← afterBlanks (mark '-') s
  let (d, s) ← bounded 1 31 (afterBlanks (number 1 2)) s
  let (_, s) ← dateTimeMark s
  let (hour, s) ← bounded 0 23 (afterBlanks (number 1 2)) s
  let (_, s) ← afterBlanks (mark ':') s
  let (minute, s) ← bounded 0 59 (afterBlanks (number 1 2)) s
  let (_, s) ← afterBlanks (mark ':') s
  let (second, s) ← bounded 0 60 (afterBlanks (number 1 2)) s
  let (nano, s) ← fraction s
  let s := Text.trimStart s
  let (minutes, s) ←
    if (s.take 3).map Text.foldChar = ['u', 't', 'c'] then pure (0, s.drop 3)
    else offset (fun s => .ok (s.dropWhile fun c => c = ':' || Text.isBlank c)) s
  let _ ← finish () (Text.trimStart s)
  let shown ← instantOf (← dateOf y m d) hour minute second nano
  atOffset shown minutes

/-- A point in time in any of the layouts, tried in turn: strict with offset, local with `T` or a
blank with and without fraction, a bare date at midnight. -/
def readInstant (s : List Char) : Option Instant :=
  (readStrict s).toOption <|> (readLocal false true s).toOption <|>
    (readLocal true true s).toOption <|> (readLocal false false s).toOption <|>
    (readLocal true false s).toOption <|> (readDate s).toOption.map Instant.midnight

end EntityQuery.Calendar

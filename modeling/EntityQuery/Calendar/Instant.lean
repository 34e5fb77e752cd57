import EntityQuery.Calendar.Date

/-!
Points in universal time, to the nanosecond. A leap second, written `:60`, is the second numbered
59 with a thousand million nanoseconds and more; it comes after every other point of that minute
and before the next minute.
-/

namespace EntityQuery

/-- The nanoseconds of a second. -/
def nanosPerSecond : Nat := 1000000000

/-- A point in time: a date, the second of the day and the nanosecond. -/
structure Instant where
  date : Date
  second : Nat
  nano : Nat
  second_lt : second < 86400
  nano_lt : nano < 2 * nanosPerSecond
  leap : nanosPerSecond ≤ nano → second % 60 = 59
  deriving DecidableEq, Repr

namespace Instant

/-- The point with the given numbers, if there is one. -/
def make? (date : Date) (second nano : Nat) : Option Instant :=
  if h : second < 86400 ∧ nano < 2 * nanosPerSecond ∧ (nanosPerSecond ≤ nano → second % 60 = 59)
  then some ⟨date, second, nano, h.1, h.2.1, h.2.2⟩ else none

/-- The start of a day. -/
def midnight (date : Date) : Instant :=
  ⟨date, 0, 0, by decide, by decide, by decide⟩

/-- The start of 1 January 1970. -/
def epoch : Instant := midnight Date.epoch

/-- The order in time. -/
instance : Ord Instant :=
  ⟨fun a b =>
    ((compare a.date b.date).then (compare a.second b.second)).then (compare a.nano b.nano)⟩

/-- The point at which a clock that is ahead by `minutes` shows the given time, `minutes` being
less than a day. -/
def behind? (shown : Instant) (minutes : Int) : Option Instant :=
  let shifted : Int := shown.second - 60 * minutes
  let date :=
    if shifted < 0 then shown.date.previous?
    else if shifted < 86400 then some shown.date
    else shown.date.next?
  date.bind fun d => make? d (shifted % 86400).toNat shown.nano

/-! ### Printing -/

/-- How many digits of a second's fraction are written. -/
inductive FractionStyle where
  /-- 0, 3, 6 or 9, the fewest that lose nothing. -/
  | shortest
  /-- Always six; what is finer is cut off. -/
  | micros
  deriving DecidableEq, Repr

/-- The fraction of a second with its point. -/
def fractionChars (style : FractionStyle) (nano : Nat) : List Char :=
  match style with
  | .micros => '.' :: Text.padZeros 6 (Text.decimalDigits (nano / 1000))
  | .shortest =>
    if nano = 0 then []
    else if nano % 1000000 = 0 then '.' :: Text.padZeros 3 (Text.decimalDigits (nano / 1000000))
    else if nano % 1000 = 0 then '.' :: Text.padZeros 6 (Text.decimalDigits (nano / 1000))
    else '.' :: Text.padZeros 9 (Text.decimalDigits nano)

/-- Date, `T`, time of day, fraction and `Z`. -/
def toChars (style : FractionStyle) (t : Instant) : List Char :=
  let extra := t.nano / nanosPerSecond
  t.date.toChars ++ 'T' :: Date.twoDigits (t.second / 3600) ++
    ':' :: Date.twoDigits (t.second / 60 % 60) ++
    ':' :: Date.twoDigits (t.second % 60 + extra) ++
    fractionChars style (t.nano % nanosPerSecond) ++ ['Z']

/-- The text of a point in time. -/
def text (style : FractionStyle) (t : Instant) : String := String.ofList (t.toChars style)

end Instant

end EntityQuery

import EntityQuery.Text.Ascii

/-!
Dates of the Gregorian calendar, extended to all years from -262143 to 262142. Dates are ordered
by year, month and day, which is their order in time.
-/

namespace EntityQuery

/-- Whether a year has a 29 February. -/
def isLeapYear (year : Int) : Bool :=
  year % 4 == 0 && (year % 100 != 0 || year % 400 == 0)

/-- The number of days of a month, 0 if there is no such month. -/
def daysInMonth (year : Int) (month : Nat) : Nat :=
  match month with
  | 1 | 3 | 5 | 7 | 8 | 10 | 12 => 31
  | 4 | 6 | 9 | 11 => 30
  | 2 => if isLeapYear year then 29 else 28
  | _ => 0

/-- Whether year, month and day name a date of the calendar. -/
def isDate (year : Int) (month day : Nat) : Bool :=
  -262143 ≤ year && year ≤ 262142 && 1 ≤ day && day ≤ daysInMonth year month

/-- A date. -/
structure Date where
  year : Int
  month : Nat
  day : Nat
  valid : isDate year month day = true
  deriving DecidableEq, Repr

namespace Date

/-- The date with the given numbers, if there is one. -/
def make? (year : Int) (month day : Nat) : Option Date :=
  if h : isDate year month day = true then some ⟨year, month, day, h⟩ else none

/-- 1 January 1970. -/
def epoch : Date := ⟨1970, 1, 1, by decide⟩

/-- The order in time. -/
instance : Ord Date :=
  ⟨fun a b => ((compare a.year b.year).then (compare a.month b.month)).then (compare a.day b.day)⟩

/-- The day after. -/
def next? (d : Date) : Option Date :=
  if d.day < daysInMonth d.year d.month then make? d.year d.month (d.day + 1)
  else if d.month < 12 then make? d.year (d.month + 1) 1
  else make? (d.year + 1) 1 1

/-- The day before. -/
def previous? (d : Date) : Option Date :=
  if 1 < d.day then make? d.year d.month (d.day - 1)
  else if 1 < d.month then make? d.year (d.month - 1) (daysInMonth d.year (d.month - 1))
  else make? (d.year - 1) 12 31

/-! ### Printing -/

/-- A number of at most two digits, in two digits. -/
def twoDigits (n : Nat) : List Char := Text.padZeros 2 (Text.decimalDigits n)

/-- A year in four digits; outside 0 to 9999 with its sign and at least four digits. -/
def yearChars (year : Int) : List Char :=
  let digits := Text.padZeros 4 (Text.decimalDigits year.natAbs)
  if year < 0 then '-' :: digits
  else if 9999 < year then '+' :: digits
  else digits

/-- Year, month and day with hyphens between them. -/
def toChars (d : Date) : List Char :=
  yearChars d.year ++ '-' :: twoDigits d.month ++ '-' :: twoDigits d.day

/-- Year, month and day with hyphens between them. -/
def text (d : Date) : String := String.ofList d.toChars

end Date

end EntityQuery

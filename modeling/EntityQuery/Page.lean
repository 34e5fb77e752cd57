/-!
Windows on an ordered sequence: some rows are dropped from the front and at most so many of the
others are kept. Taking 0 means taking all.
-/

namespace EntityQuery

/-- A window: the rows to drop and the number to keep, 0 for all. -/
structure Page where
  skip : UInt32
  take : UInt32
  deriving DecidableEq, Repr

namespace Page

/-- The window on everything. -/
def unbounded : Page := ⟨0, 0⟩

/-- The largest number of rows, if there is one. -/
def limit? (p : Page) : Option Nat :=
  if p.take = 0 then none else some p.take.toNat

/-- Whether every row is kept. -/
def isUnbounded (p : Page) : Bool := p.skip == 0 && p.take == 0

/-- The rows in the window. -/
def apply {α : Type} (p : Page) (rows : List α) : List α :=
  match p.limit? with
  | some n => (rows.drop p.skip.toNat).take n
  | none => rows.drop p.skip.toNat

/-- The window with its size cut down to a maximum, which also replaces "all". -/
def capped (p : Page) (max : Option UInt32) : Page :=
  match max with
  | some m => if p.take = 0 ∨ m < p.take then ⟨p.skip, m⟩ else p
  | none => p

end Page

end EntityQuery

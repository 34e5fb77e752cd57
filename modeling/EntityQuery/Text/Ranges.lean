/-!
Classes of characters that are given by ranges of code points.
-/

namespace EntityQuery.Text

/-- Whether a character lies in one of some ranges, whose ends belong to them. -/
def within (ranges : List (Nat × Nat)) (c : Char) : Bool :=
  ranges.any fun r => r.1 ≤ c.toNat && c.toNat ≤ r.2

end EntityQuery.Text

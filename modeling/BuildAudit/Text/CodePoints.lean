/-!
# Sets of code points

Character properties of the Unicode standard are stored as inclusive ranges of code points, and a
character has the property when one of the ranges covers it.
-/

namespace BuildAudit.Text

/-- A set of code points, given by the inclusive ranges that make it up. -/
structure CodePoints where
  /-- First and last code point of each range. -/
  ranges : List (Nat × Nat)

/-- Whether a character lies in one of the ranges. -/
def CodePoints.contains (set : CodePoints) (c : Char) : Bool :=
  set.ranges.any fun range => range.1 ≤ c.toNat && c.toNat ≤ range.2

end BuildAudit.Text

/-
Printlet.Text.Ranges — sets of characters as ranges of code points.

The tables of this folder give properties of characters as Unicode 17.0 has them. A table lists closed
ranges in ascending order, so looking a character up stops at the first range above it.
-/

namespace Printlet.Text

/-- Closed ranges of code points, ascending and apart. -/
abbrev Ranges := List (Nat × Nat)

/-- Whether a code point lies in one of the ranges. -/
def Ranges.contains : Ranges → Nat → Bool
  | [], _ => false
  | (low, high) :: rest, n => low ≤ n && (n ≤ high || contains rest n)

end Printlet.Text

/-!
# `Text.Ranges` — membership in a table of intervals

Character classes are given as tables of closed intervals of code points in ascending order.
`inRanges` walks such a table and stops at the first interval that begins above the code point.
-/

namespace ItemQuery.Text

/-- Membership of `n` in one of the ascending closed intervals. -/
def inRanges : List (Nat × Nat) → Nat → Bool
  | [], _ => false
  | (lo, hi) :: rest, n => if n < lo then false else n ≤ hi || inRanges rest n

end ItemQuery.Text

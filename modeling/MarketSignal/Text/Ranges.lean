/-
Character classes are kept as ascending lists of closed ranges of code points. One look-up serves
every class: because the ranges ascend and stay apart, the first range that does not end before
the sought number decides.
-/

namespace MarketSignal.Text

/-- A character class as closed ranges of code points, in ascending order and apart. -/
abbrev Ranges := List (Nat × Nat)

namespace Ranges

/-- Whether a code point lies in one of the ranges. The search stops at the first range that does
not end below the code point, which is right because the ranges ascend. -/
def has : Ranges → Nat → Bool
  | [], _ => false
  | (first, last) :: rest, point =>
    if point ≤ last then decide (first ≤ point) else has rest point

/-- Each range is non-empty and ends below the start of the next one. -/
def ascending : Ranges → Bool
  | [] => true
  | [(first, last)] => decide (first ≤ last)
  | (first, last) :: (next, stop) :: rest =>
    decide (first ≤ last) && decide (last < next) && ascending ((next, stop) :: rest)

end Ranges

end MarketSignal.Text

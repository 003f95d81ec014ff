/-
# Tables of code point ranges

A character property beyond ASCII is given as a list of inclusive ranges. The
ranges of a table increase, so a search may stop at the first range that starts
above the code point.
-/

namespace Stencil.Text

/-- Whether a code point lies in one of the increasing inclusive ranges. -/
def inRanges : List (Nat × Nat) → Nat → Bool
  | [], _ => false
  | (low, high) :: rest, n => if n < low then false else n ≤ high || inRanges rest n

end Stencil.Text

import Storefront.Text.Basic

/-!
# Sets of code points as ranges

A class of code points is a list of closed ranges, ascending and apart.
-/

namespace Storefront.Text

/-- Whether a code point lies in one of the ranges. -/
def inRanges (ranges : List (Nat × Nat)) (p : CodePoint) : Bool :=
  ranges.any fun r => r.1 ≤ p.toNat && p.toNat ≤ r.2

end Storefront.Text

/-!
Sets of characters that are given by the ranges of their codes.
-/

namespace ClusterUpgrade.Text

/-- Ranges of codes, each by its first and its last. -/
abbrev CharRanges := List (Nat × Nat)

/-- Whether a character is in one of the ranges. -/
def CharRanges.holds (ranges : CharRanges) (c : Char) : Bool :=
  ranges.any fun range => range.1 ≤ c.toNat && c.toNat ≤ range.2

end ClusterUpgrade.Text

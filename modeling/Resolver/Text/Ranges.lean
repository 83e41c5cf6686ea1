/-!
# Ranges of characters

A class of characters is written as ranges of their numbers, in ascending order.
-/

namespace Resolver.Ranges

/-- Whether a number lies in one of the ranges. -/
def isAmong (ranges : List (Nat × Nat)) (n : Nat) : Bool :=
  ranges.any fun (low, high) => low ≤ n && n ≤ high

/-- Whether the ranges are not empty and each lies behind the one before, from `n` on. -/
def ascendFrom (n : Nat) : List (Nat × Nat) → Bool
  | [] => true
  | (low, high) :: rest => n ≤ low && low ≤ high && ascendFrom (high + 1) rest

end Resolver.Ranges

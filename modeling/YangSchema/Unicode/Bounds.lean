/-!
# Sets of code points

A set of code points is given by the ascending points at which membership changes, starting
outside: `[48, 58]` holds 48 to 57.
-/
namespace YangSchema.Unicode

/-- Membership of `n`, where `inside` tells it for the points before the first bound. -/
def inBoundsFrom (inside : Bool) (n : Nat) : List Nat → Bool
  | [] => inside
  | b :: bs => if n < b then inside else inBoundsFrom (!inside) n bs

def inBounds (bounds : List Nat) (n : Nat) : Bool :=
  inBoundsFrom false n bounds

/-- Whether a set has members from `low` to `high`: `low` itself, or where membership changes above
it. -/
def meetsBounds (bounds : List Nat) (low high : Nat) : Bool :=
  low ≤ high && (inBounds bounds low || bounds.any fun b => low < b && b ≤ high)

end YangSchema.Unicode

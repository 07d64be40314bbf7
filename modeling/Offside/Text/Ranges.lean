/-!
# Character ranges

A set of code points as a list of closed ranges in ascending order.
-/

namespace Offside
namespace Text

/-- Whether `code` lies in one of the ranges. -/
def inRanges (code : Nat) : List (Nat × Nat) → Bool
  | [] => false
  | (first, last) :: rest => first ≤ code && (code ≤ last || inRanges code rest)

end Text
end Offside

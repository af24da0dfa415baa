/-!
Sets of characters given by the points at which membership changes.  The bounds are listed in
increasing order, so that a code point belongs to the set when an odd number of bounds are at
most as large as it.
-/

namespace FieldPipeline.Text

structure CodeRanges where
  bounds : Array Nat

namespace CodeRanges

/-- The number of bounds that are at most `point`, found between positions `low` and `high`. -/
def countUpTo (bounds : Array Nat) (point : Nat) : Nat → Nat → Nat → Nat
  | 0, low, _ => low
  | steps + 1, low, high =>
    if low < high then
      let middle := (low + high) / 2
      match bounds[middle]? with
      | some bound =>
        if bound ≤ point then countUpTo bounds point steps (middle + 1) high
        else countUpTo bounds point steps low middle
      | none => low
    else low

def contains (ranges : CodeRanges) (point : Nat) : Bool :=
  countUpTo ranges.bounds point ranges.bounds.size 0 ranges.bounds.size % 2 == 1

end CodeRanges

end FieldPipeline.Text

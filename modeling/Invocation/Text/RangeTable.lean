import Invocation.Text.Basic

/-!
# Sets of code points

A set is given by the increasing list of the places where membership changes. The number of such places up to a
code point is odd exactly if the code point is in the set.
-/

namespace Invocation

structure RangeTable where
  boundaries : Array Nat

namespace RangeTable

/-- How many of the boundaries before `high` are at most `n`, where all of those before `low` are. -/
def rank (boundaries : Array Nat) (n low high : Nat) : Nat :=
  if h : low < high then
    let middle := (low + high) / 2
    if boundaries.getD middle 0 ≤ n then rank boundaries n (middle + 1) high
    else rank boundaries n low middle
  else low
termination_by high - low

def contains (s : RangeTable) (c : CodePoint) : Bool :=
  rank s.boundaries c.toNat 0 s.boundaries.size % 2 == 1

end RangeTable

end Invocation

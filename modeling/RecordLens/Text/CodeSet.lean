/-!
Sets of code points, held as the sorted list of the points where membership changes: the first bound
begins a stretch of members, the second ends it, and so on.
-/
namespace RecordLens.Text

/-- A set of code points, by the bounds of its ranges. -/
structure CodeSet where
  bounds : Array Nat

/-- How many of the bounds from `low` to `high` are at most `n`, counting those before `low`. Each
    step halves the stretch, so `fuel` above its binary length is enough. -/
def CodeSet.rank (s : CodeSet) (n : Nat) : Nat → Nat → Nat → Nat
  | 0, low, _ => low
  | fuel + 1, low, high =>
    if low < high then
      let middle := (low + high) / 2
      if s.bounds.getD middle 0 ≤ n then s.rank n fuel (middle + 1) high
      else s.rank n fuel low middle
    else low

/-- Whether the code point `n` is in the set. -/
def CodeSet.contains (s : CodeSet) (n : Nat) : Bool := s.rank n 32 0 s.bounds.size % 2 = 1

end RecordLens.Text

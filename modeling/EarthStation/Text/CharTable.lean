/-!
# CharTable — sets of characters by their boundaries

* `Text.CharTable`: the ascending code points at which membership changes.
* `Text.CharTable.contains`: a character is in the set when an odd number of boundaries is at or
  below it.
-/

namespace EarthStation.Text

/-- A set of characters: the ascending code points at which membership changes, beginning with the
first member. -/
structure CharTable where
  boundaries : Array Nat

namespace CharTable

/-- The number of boundaries at or below `n`, by halving the range `[lo, hi)` of candidates. -/
def rank (t : CharTable) (n : Nat) : (fuel lo hi : Nat) → Nat
  | 0, lo, _ => lo
  | fuel + 1, lo, hi =>
    if lo < hi then
      let mid := (lo + hi) / 2
      if t.boundaries.getD mid 0 ≤ n then rank t n fuel (mid + 1) hi else rank t n fuel lo mid
    else lo

def contains (t : CharTable) (c : Char) : Bool :=
  t.rank c.toNat t.boundaries.size 0 t.boundaries.size % 2 == 1

end CharTable

end EarthStation.Text

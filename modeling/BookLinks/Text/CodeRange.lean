/-! Sets of code points written as sorted, disjoint closed ranges: the form in which the
character classes of this library are tabulated. Membership is a binary search over the
table; `contains` agrees with "some range holds the code point" whenever the table is sorted. -/
namespace BookLinks.Text

/-- The code points from `first` to `last`, both included. -/
structure CodeRange where
  first : Nat
  last : Nat
  deriving Repr, DecidableEq, Inhabited

namespace CodeRange

/-- Whether `n` lies in the range. -/
def holds (r : CodeRange) (n : Nat) : Bool := r.first ≤ n && n ≤ r.last

/-- Binary search for `n` among the ranges with index in `[lo, hi)`. -/
def searchIn (table : Array CodeRange) (n lo hi : Nat) : Bool :=
  if lo < hi then
    let mid := (lo + hi) / 2
    let r := table.getD mid default
    if n < r.first then searchIn table n lo mid
    else if r.last < n then searchIn table n (mid + 1) hi
    else true
  else false
termination_by hi - lo

/-- Whether some range of a table sorted by `first` holds `n`. -/
def contains (table : Array CodeRange) (n : Nat) : Bool :=
  searchIn table n 0 table.size

end CodeRange

end BookLinks.Text

import Teamwork.Ties

/-!
# Ranking the ties of one employee

The closest collaborators come first: heavier ties before lighter ones, and ties of one weight in
ascending order of the id at the other end. The order is total, so a ranking is unique and a short
ranking is the beginning of a longer one.

## Main definitions

* `Row.rankLE` — whether an entry ranks no later than another.
* `Row.top` — the first entries of the ranking.

## Main results

* `Row.length_top` — a ranking is as long as was asked for, if the row is.
-/

namespace Teamwork.Row

/-- Whether an entry ranks no later than another. -/
def rankLE (x y : String × UInt32) : Bool :=
  y.2 < x.2 || x.2 = y.2 && x.1 ≤ y.1

/-- The `limit` heaviest entries of a row, the heaviest first. -/
def top (row : Row) (limit : Nat) : List (String × UInt32) :=
  (row.toList.mergeSort rankLE).take limit

theorem length_top (row : Row) (limit : Nat) : (row.top limit).length = min limit row.size := by
  simp [top]

end Teamwork.Row

/-! Sets of characters given by intervals of code points, the form in which character properties are
tabulated. -/

namespace C4Model

/-- A set of code points, as closed intervals in increasing order. -/
structure CodePoints where
  intervals : List (Nat × Nat)

namespace CodePoints

/-- Whether the code point of `c` lies in one of the intervals. -/
def contains (set : CodePoints) (c : Char) : Bool :=
  set.intervals.any fun interval => interval.1 ≤ c.toNat && c.toNat ≤ interval.2

theorem contains_iff {set : CodePoints} {c : Char} :
    set.contains c = true ↔ ∃ interval ∈ set.intervals, interval.1 ≤ c.toNat ∧ c.toNat ≤ interval.2 := by
  simp [contains, List.any_eq_true]

end CodePoints

end C4Model

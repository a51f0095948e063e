/-! Sets of characters, given by ranges of code points with both ends included. -/
namespace EventFilter.Text

structure CharSet where
  ranges : List (Nat × Nat)

def CharSet.contains (set : CharSet) (c : Char) : Bool :=
  set.ranges.any fun range => range.1 ≤ c.toNat && c.toNat ≤ range.2

theorem CharSet.contains_iff (set : CharSet) (c : Char) :
    set.contains c = true ↔ ∃ range ∈ set.ranges, range.1 ≤ c.toNat ∧ c.toNat ≤ range.2 := by
  simp [CharSet.contains]

end EventFilter.Text

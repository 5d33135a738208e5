/-!
Sets of characters given by ranges of code points.
-/

namespace HeapGraph.Text

/-- A set of characters: the ranges of its code points, both ends included. -/
structure CharSet where
  ranges : Array (Nat × Nat)

def CharSet.contains (set : CharSet) (c : Char) : Bool :=
  set.ranges.any fun range => range.1 ≤ c.toNat && c.toNat ≤ range.2

theorem CharSet.contains_iff (set : CharSet) (c : Char) :
    set.contains c = true ↔ ∃ range ∈ set.ranges, range.1 ≤ c.toNat ∧ c.toNat ≤ range.2 := by
  simp [CharSet.contains, ← Array.any_toList]

end HeapGraph.Text

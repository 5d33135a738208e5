import Std.Data.ExtTreeMap
import Std.Data.ExtTreeSet

/-!
References between the slots of a graph, their order, and the indices that file them by an endpoint.
-/

namespace HeapGraph

structure Link where
  src : Nat
  dst : Nat
  name : Option String
  deriving Repr, DecidableEq, Inhabited

namespace Link

/-- By source, then by destination, then by name, anonymous references first. -/
instance : Ord Link where
  compare := compareLex (compareOn Link.src) (compareLex (compareOn Link.dst) (compareOn Link.name))

instance : Std.TransOrd Link :=
  inferInstanceAs (Std.TransCmp
    (compareLex (compareOn Link.src) (compareLex (compareOn Link.dst) (compareOn Link.name))))

instance : Std.LawfulEqOrd Link where
  eq_of_compare {left right} same := by
    change compareLex _ _ left right = .eq at same
    simp only [compareLex_eq_eq, compareOn, Std.LawfulEqOrd.compare_eq_iff_eq] at same
    obtain ⟨src, dst, name⟩ := same
    cases left
    cases right
    simp_all

end Link

abbrev Bucket := Std.ExtTreeSet Nat

abbrev Index := Std.ExtTreeMap Nat Bucket

namespace Index

def file (index : Index) (node edge : Nat) : Index :=
  index.alter node fun bucket => some ((bucket.getD ∅).insert edge)

/-- Takes a reference out of the bucket of a node, and the bucket away with its last reference. -/
def unfile (index : Index) (node edge : Nat) : Index :=
  index.alter node fun bucket =>
    bucket.bind fun bucket =>
      let left := bucket.erase edge
      if left.isEmpty then none else some left

def bucket (index : Index) (node : Nat) : Bucket :=
  index[node]?.getD ∅

end Index

end HeapGraph

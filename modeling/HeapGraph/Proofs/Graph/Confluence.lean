import HeapGraph.Proofs.Graph.History

/-!
Removable leaves may be taken out in any order. A leaf stays one until it is taken out itself, every
order comes to an end after as many steps as the prune takes, and the end is always the same graph.
-/

namespace HeapGraph.Graph

namespace Peeling

variable {graph middle left right : Graph} {ids others : List String}

theorem leaf_stays (peeling : Peeling graph ids middle) (consistent : graph.Consistent)
    {id : String} (leaf : graph.isRemovableLeaf id = true) (untouched : id ∉ ids) :
    middle.isRemovableLeaf id = true := by
  have restriction := peeling.restriction consistent
  obtain ⟨node, member, rfl⟩ := consistent.mem_of_isRemovableLeaf leaf
  obtain ⟨fixed, bare⟩ := (consistent.isRemovableLeaf_iff member).mp leaf
  have kept : node ∈ middle.nodes := restriction.mem_nodes.mpr ⟨member, by simpa using untouched⟩
  refine (restriction.consistent.isRemovableLeaf_iff kept).mpr ⟨fixed, ?_⟩
  intro target refers
  exact bare target (restriction.refers_iff.mp refers).1

/-- Wherever an order has come to, pruning goes on from there to an end. -/
theorem complete (peeling : Peeling graph ids middle) (consistent : graph.Consistent) :
    ∃ rest left, Peeling middle rest left ∧ Peeling graph (ids ++ rest) left ∧ left.Leafless := by
  obtain ⟨_, rest, left, _, more, leafless, _⟩ := (peeling.restriction consistent).consistent.prune
  exact ⟨rest, left, more, peeling.append more, leafless⟩

theorem length_eq (first : Peeling graph ids left) (second : Peeling graph others right)
    (consistent : graph.Consistent) (firstLeafless : left.Leafless)
    (secondLeafless : right.Leafless) : ids.length = others.length := by
  have firstCount := first.nodeCount
  have secondCount := second.nodeCount
  rw [first.unique second consistent firstLeafless secondLeafless] at firstCount
  omega

theorem eq_of_nil (peeling : Peeling graph [] left) : left = graph := by
  cases peeling
  rfl

end Peeling

/-- Whoever takes out leaves one at a time, in whatever order, never fails to take one out, meets every
leaf that there was as long as it is there, is done after exactly as many steps as the prune reports,
and is then left with the graph that the prune leaves. -/
theorem prune_confluent {nodes : List Node} {references : List Reference} {built : Graph}
    (accepted : ofRecords nodes references = .ok built) (changes : List Change) :
    ∃ report left, (built.run changes).prune = .ok (report, left) ∧
      ∀ ids middle, Peeling (built.run changes) ids middle →
        (∀ id, middle.isRemovableLeaf id = true →
          ∃ node next, middle.remove id = .ok (node, next)) ∧
        (∀ id, (built.run changes).isRemovableLeaf id = true → id ∉ ids →
          middle.isRemovableLeaf id = true) ∧
        ids.length ≤ report.removedNodes ∧
        (middle.Leafless ↔ ids.length = report.removedNodes) ∧
        (middle.Leafless → middle = left) := by
  have consistent := (ofRecords_holds accepted).1.run changes
  obtain ⟨report, peeled, left, pruned, pruning, leafless, counted⟩ := consistent.prune
  refine ⟨report, left, pruned, ?_⟩
  intro ids middle peeling
  obtain ⟨rest, last, more, whole, lastLeafless⟩ := peeling.complete consistent
  have steps : ids.length + rest.length = report.removedNodes := by
    rw [counted, ← List.length_append]
    exact whole.length_eq pruning consistent lastLeafless leafless
  refine ⟨?_, fun id => peeling.leaf_stays consistent, by omega, ⟨?_, ?_⟩, ?_⟩
  · intro id leaf
    have reached := (peeling.restriction consistent).consistent
    obtain ⟨node, member, rfl⟩ := reached.mem_of_isRemovableLeaf leaf
    obtain ⟨next, removed, _⟩ := reached.remove member
    exact ⟨node, next, removed⟩
  · intro done
    rw [counted]
    exact peeling.length_eq pruning consistent done leafless
  · intro all
    have none : rest = [] := List.length_eq_zero_iff.mp (by omega)
    subst none
    rwa [more.eq_of_nil] at lastLeafless
  · intro done
    exact peeling.unique pruning consistent done leafless

theorem prune_confluent_chain :
    ∃ built report left,
      ofRecords [exampleNode "a" true, exampleNode "b" true, exampleNode "c" true]
        [⟨"a", "b", none⟩, ⟨"b", "c", some "k"⟩, ⟨"c", "c", some "env"⟩] = .ok built ∧
      (built.run [.remove "x"]).prune = .ok (report, left) ∧
      ∀ ids middle, Peeling (built.run [.remove "x"]) ids middle →
        (middle.Leafless ↔ ids.length = report.removedNodes) := by
  obtain ⟨built, accepted⟩ := ofRecords_ok
    [exampleNode "a" true, exampleNode "b" true, exampleNode "c" true]
    [⟨"a", "b", none⟩, ⟨"b", "c", some "k"⟩, ⟨"c", "c", some "env"⟩]
    (by decide) (by decide)
  obtain ⟨report, left, pruned, confluent⟩ := prune_confluent accepted [.remove "x"]
  refine ⟨built, report, left, accepted, pruned, ?_⟩
  intro ids middle peeling
  exact (confluent ids middle peeling).2.2.2.1

end HeapGraph.Graph

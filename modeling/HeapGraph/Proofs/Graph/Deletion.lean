import HeapGraph.Proofs.Graph.History

/-!
Deleting several objects by their ids. Neither the order of the ids makes a difference nor those
that are not there or come again: the graph that is left is the same in all its parts. And to prune
before a deletion changes nothing about what is left when the graph is pruned behind it.
-/

namespace HeapGraph.Graph

def removeAll (graph : Graph) : List String → Except GraphError (List Node × Graph)
  | [] => .ok ([], graph)
  | id :: ids =>
    match graph.remove id with
    | .error (.notFound _) => graph.removeAll ids
    | .error error => .error error
    | .ok (node, left) =>
      match left.removeAll ids with
      | .error error => .error error
      | .ok (nodes, last) => .ok (node :: nodes, last)

theorem removeAll_absent {graph : Graph} {id other : String}
    (failed : graph.remove id = .error (.notFound other)) (ids : List String) :
    graph.removeAll (id :: ids) = graph.removeAll ids := by
  rw [removeAll, failed]

theorem removeAll_present {graph left last : Graph} {id : String} {node : Node} {nodes : List Node}
    {ids : List String} (removed : graph.remove id = .ok (node, left))
    (others : left.removeAll ids = .ok (nodes, last)) :
    graph.removeAll (id :: ids) = .ok (node :: nodes, last) := by
  rw [removeAll, removed]
  simp only [others]

namespace Consistent

variable {graph : Graph}

theorem cons_filter_perm (consistent : graph.Consistent) {node : Node} (member : node ∈ graph.nodes)
    (ids : List String) :
    (node :: graph.nodes.filter fun kept => ids.contains kept.id && kept.id != node.id).Perm
      (graph.nodes.filter fun kept => (node.id :: ids).contains kept.id) := by
  have unique := consistent.nodup_nodes
  refine (List.perm_ext_iff_of_nodup (List.nodup_cons.mpr ⟨by simp, unique.filter _⟩)
    (unique.filter _)).mpr fun kept => ?_
  simp only [List.mem_cons, List.mem_filter, List.contains_cons, Bool.and_eq_true, Bool.or_eq_true,
    bne_iff_ne, beq_iff_eq]
  constructor
  · rintro (rfl | ⟨live, named, _⟩)
    · exact ⟨member, Or.inl rfl⟩
    · exact ⟨live, Or.inr named⟩
  · rintro ⟨live, same | named⟩
    · exact Or.inl (consistent.node_unique live member same)
    · by_cases same : kept.id = node.id
      · exact Or.inl (consistent.node_unique live member same)
      · exact Or.inr ⟨live, named, same⟩

theorem removeAll (consistent : graph.Consistent) (ids : List String) :
    ∃ returned left, graph.removeAll ids = .ok (returned, left) ∧
      graph.Restriction (fun node => !ids.contains node.id) left ∧
      returned.Perm (graph.nodes.filter fun node => ids.contains node.id) := by
  induction ids generalizing graph with
  | nil => exact ⟨[], graph, rfl, Restriction.refl consistent, by simp⟩
  | cons id ids ih =>
      rcases consistent.remove_cases id with
        ⟨node, member, rfl, middle, removed, first⟩ | ⟨absent, failed⟩
      · obtain ⟨others, left, ran, rest, listed⟩ := ih first.consistent
        refine ⟨node :: others, left, removeAll_present removed ran, first.cons rest,
          (listed.cons node).trans ?_⟩
        rw [first.nodes, List.filter_filter]
        exact consistent.cons_filter_perm member ids
      · obtain ⟨returned, left, ran, restriction, listed⟩ := ih consistent
        have same (node : Node) (member : node ∈ graph.nodes) :
            ids.contains node.id = (id :: ids).contains node.id := by
          simp [absent node member]
        refine ⟨returned, left, by rw [removeAll_absent failed, ran],
          restriction.congr fun node member => by rw [same node member], ?_⟩
        rwa [← List.filter_congr same]

end Consistent

/-- Two lists of ids that name the same objects of a graph leave the same graph, in all its parts:
the one without these objects and the references at them. Whichever list is gone through, each of
the objects comes back once, as it was. -/
theorem removeAll_canonical {nodes : List Node} {references : List Reference} {built : Graph}
    (accepted : ofRecords nodes references = .ok built) (changes : List Change)
    {ids others : List String}
    (same : ∀ node ∈ (built.run changes).nodes, node.id ∈ ids ↔ node.id ∈ others) :
    ∃ returned otherReturned left,
      (built.run changes).removeAll ids = .ok (returned, left) ∧
      (built.run changes).removeAll others = .ok (otherReturned, left) ∧
      left.nodes = ((built.run changes).nodes.filter fun node => node.id ∉ ids) ∧
      left.edges = ((built.run changes).edges.filter
        fun edge => edge.src.id ∉ ids ∧ edge.dst.id ∉ ids) ∧
      returned.Perm ((built.run changes).nodes.filter fun node => node.id ∈ ids) ∧
      otherReturned.Perm ((built.run changes).nodes.filter fun node => node.id ∈ ids) := by
  have consistent := (ofRecords_holds accepted).1.run changes
  obtain ⟨returned, left, ran, restriction, listed⟩ := consistent.removeAll ids
  obtain ⟨otherReturned, right, otherRan, otherRestriction, otherListed⟩ :=
    consistent.removeAll others
  have agree (node : Node) (member : node ∈ (built.run changes).nodes) :
      others.contains node.id = ids.contains node.id := by
    rw [Bool.eq_iff_iff, List.contains_iff_mem, List.contains_iff_mem]
    exact (same node member).symm
  have equal : left = right := restriction.unique
    (otherRestriction.congr fun node member => by rw [agree node member])
  subst equal
  rw [List.filter_congr agree] at otherListed
  refine ⟨returned, otherReturned, left, ran, otherRan, ?_, ?_, ?_, ?_⟩
  · simpa using restriction.nodes
  · simpa using restriction.edges
  · simpa using listed
  · simpa using otherListed

theorem removeAll_canonical_mixed :
    ∃ built returned otherReturned left,
      ofRecords [exampleNode "a" true, exampleNode "b" false, exampleNode "c" false]
        [⟨"a", "a", none⟩, ⟨"a", "b", some "k"⟩, ⟨"b", "a", none⟩, ⟨"c", "b", none⟩] =
          .ok built ∧
      (∀ node ∈ (built.run []).nodes,
        node.id ∈ ["a", "x", "b"] ↔ node.id ∈ ["b", "a", "y", "b"]) ∧
      (built.run []).removeAll ["a", "x", "b"] = .ok (returned, left) ∧
      (built.run []).removeAll ["b", "a", "y", "b"] = .ok (otherReturned, left) ∧
      left.nodes = [exampleNode "c" false] ∧
      returned.Perm [exampleNode "a" true, exampleNode "b" false] ∧
      otherReturned.Perm [exampleNode "a" true, exampleNode "b" false] := by
  obtain ⟨built, accepted⟩ := ofRecords_ok
    [exampleNode "a" true, exampleNode "b" false, exampleNode "c" false]
    [⟨"a", "a", none⟩, ⟨"a", "b", some "k"⟩, ⟨"b", "a", none⟩, ⟨"c", "b", none⟩]
    (by decide) (by decide)
  have live : (built.run []).nodes =
      [exampleNode "a" true, exampleNode "b" false, exampleNode "c" false] :=
    (ofRecords_holds accepted).2.1
  have same : ∀ node ∈ (built.run []).nodes,
      node.id ∈ ["a", "x", "b"] ↔ node.id ∈ ["b", "a", "y", "b"] := by
    rw [live]
    decide
  obtain ⟨returned, otherReturned, left, ran, otherRan, stay, _, listed, otherListed⟩ :=
    removeAll_canonical accepted [] same
  rw [live] at stay listed otherListed
  exact ⟨built, returned, otherReturned, left, accepted, same, ran, otherRan, stay, listed,
    otherListed⟩

/-- To prune what is left of a graph leaves the greatest set of objects of the graph that hold each
other up without those that are gone. -/
theorem Restriction.prune {graph left : Graph} {keep : Node → Bool}
    (restriction : graph.Restriction keep left) :
    ∃ report pruned, left.prune = .ok (report, pruned) ∧
      graph.Restriction (fun node => decide (node ∈ pruned.nodes)) pruned ∧
      IsGreatest {kept | graph.Supports kept ∧ ∀ node ∈ kept, keep node = true}
        {node | node ∈ pruned.nodes} := by
  obtain ⟨report, peeled, pruned, ran, peeling, leafless, _⟩ := restriction.consistent.prune
  have greatest := peeling.greatest restriction.consistent leafless
  simp only [restriction.supports_iff] at greatest
  refine ⟨report, pruned, ran, ?_, greatest⟩
  have both := restriction.trans (peeling.restriction_kept restriction.consistent)
  refine both.congr fun node _ => ?_
  by_cases stays : node ∈ pruned.nodes
  · simp [stays, greatest.1.2 node stays]
  · simp [stays]

/-- Deleting objects and pruning then comes to the same graph, in all its parts, as pruning first,
deleting those of the objects that are left, and pruning again: the graph of the greatest set of
objects that hold each other up without those deleted. -/
theorem prune_removeAll_prune {nodes : List Node} {references : List Reference} {built : Graph}
    (accepted : ofRecords nodes references = .ok built) (changes : List Change)
    (ids : List String) :
    ∃ removed cut report early pruned others rest again left,
      (built.run changes).removeAll ids = .ok (removed, cut) ∧ cut.prune = .ok (report, left) ∧
      (built.run changes).prune = .ok (early, pruned) ∧
      pruned.removeAll ids = .ok (others, rest) ∧ rest.prune = .ok (again, left) ∧
      IsGreatest {kept | (built.run changes).Supports kept ∧ ∀ node ∈ kept, node.id ∉ ids}
        {node | node ∈ left.nodes} := by
  have consistent := (ofRecords_holds accepted).1.run changes
  obtain ⟨removed, cut, ranCut, cutRestriction, _⟩ := consistent.removeAll ids
  obtain ⟨report, left, prunedCut, leftRestriction, leftGreatest⟩ := cutRestriction.prune
  obtain ⟨early, pruned, ranEarly, prunedRestriction, prunedGreatest⟩ :=
    (Restriction.refl consistent).prune
  obtain ⟨others, rest, ranRest, restRestriction, _⟩ := prunedRestriction.consistent.removeAll ids
  obtain ⟨again, last, prunedRest, lastRestriction, lastGreatest⟩ :=
    (prunedRestriction.trans restRestriction).prune
  -- What holds itself up without the deleted objects has survived the first prune anyway.
  have within (kept : Set Node) (supports : (built.run changes).Supports kept) (node : Node)
      (member : node ∈ kept) : node ∈ pruned.nodes :=
    prunedGreatest.2 ⟨supports, fun _ _ => rfl⟩ member
  have sets : {kept | (built.run changes).Supports kept ∧
        ∀ node ∈ kept, (decide (node ∈ pruned.nodes) && !ids.contains node.id) = true} =
      {kept | (built.run changes).Supports kept ∧
        ∀ node ∈ kept, (!ids.contains node.id) = true} := by
    ext kept
    refine and_congr_right fun supports => forall₂_congr fun node member => ?_
    simp [within kept supports node member]
  rw [sets] at lastGreatest
  have equal : left = last :=
    leftRestriction.eq_of_nodes lastRestriction (leftGreatest.unique lastGreatest)
  subst equal
  exact ⟨removed, cut, report, early, pruned, others, rest, again, left, ranCut, prunedCut,
    ranEarly, ranRest, prunedRest, by simpa using leftGreatest⟩

theorem prune_removeAll_prune_stranded :
    ∃ built removed cut report early pruned others rest again left,
      ofRecords [exampleNode "a" true, exampleNode "b" false, exampleNode "c" true]
        [⟨"a", "b", none⟩, ⟨"c", "a", some "env"⟩] = .ok built ∧
      (built.run []).removeAll ["b", "c", "b"] = .ok (removed, cut) ∧
      cut.prune = .ok (report, left) ∧ (built.run []).prune = .ok (early, pruned) ∧
      pruned.removeAll ["b", "c", "b"] = .ok (others, rest) ∧
      rest.prune = .ok (again, left) ∧
      IsGreatest {kept | (built.run []).Supports kept ∧ ∀ node ∈ kept, node.id ∉ ["b", "c", "b"]}
        {node | node ∈ left.nodes} := by
  obtain ⟨built, accepted⟩ := ofRecords_ok
    [exampleNode "a" true, exampleNode "b" false, exampleNode "c" true]
    [⟨"a", "b", none⟩, ⟨"c", "a", some "env"⟩] (by decide) (by decide)
  obtain ⟨removed, cut, report, early, pruned, others, rest, again, left, outcome⟩ :=
    prune_removeAll_prune accepted [] ["b", "c", "b"]
  exact ⟨built, removed, cut, report, early, pruned, others, rest, again, left, accepted, outcome⟩

end HeapGraph.Graph

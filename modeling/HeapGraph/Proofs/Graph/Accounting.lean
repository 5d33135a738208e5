import HeapGraph.Proofs.Graph.Passes

/-!
The report of a prune is exact. Whenever a pass comes to an object, the references that are there and
those that it has counted as removed are together as many as there were when it began, and so are those
of all passes. As no removal adds references, the difference that is counted is never cut off at zero.
-/

namespace HeapGraph

namespace Graph

theorem nodup_slots (graph : Graph) : (graph.edges.map Edge.slot).Nodup := by
  rw [edges, List.map_filterMap]
  refine List.nodup_range.filterMap ?_
  intro first second slot firstFound secondFound
  simp only [Option.mem_def, Option.map_eq_some_iff] at firstFound secondFound
  obtain ⟨left, leftFound, rfl⟩ := firstFound
  obtain ⟨right, rightFound, same⟩ := secondFound
  rw [← (edgeAt?_eq_some.mp leftFound).1, ← (edgeAt?_eq_some.mp rightFound).1, same]

namespace Restriction

variable {graph left : Graph} {keep : Node → Bool}

theorem edgeCount_add (restriction : graph.Restriction keep left) (consistent : graph.Consistent) :
    left.edgeCount + (graph.edges.filter fun edge => !(keep edge.src && keep edge.dst)).length =
      graph.edgeCount := by
  rw [restriction.consistent.edgeCount_eq, consistent.edgeCount_eq, restriction.edges]
  exact (List.length_eq_length_filter_add _).symm

theorem nodeCount_add (restriction : graph.Restriction keep left) (consistent : graph.Consistent) :
    left.nodeCount + (graph.nodes.filter fun node => !keep node).length = graph.nodeCount := by
  rw [restriction.consistent.nodeCount_eq, consistent.nodeCount_eq, restriction.nodes]
  exact (List.length_eq_length_filter_add _).symm

end Restriction

/-- The state in which one of the passes of a prune comes to an object. -/
inductive Meets : Graph → Sweep → String → Prop
  | now {graph : Graph} {before after : List String} {id : String} {sweep : Sweep} :
      graph.nodes.map Node.id = before ++ id :: after →
      before.foldlM Sweep.visit ⟨graph, 0, 0⟩ = .ok sweep → Meets graph sweep id
  | later {graph : Graph} {pass sweep : Sweep} {id : String} : graph.sweep = .ok pass →
      pass.removedNodes ≠ 0 → Meets pass.graph sweep id → Meets graph sweep id

end Graph

namespace Sweep

variable {sweep after : Sweep} {id : String}

/-- What a pass has counted and what is still there, once it has come to one more object. -/
theorem visit_edges (consistent : sweep.graph.Consistent) (visited : sweep.visit id = .ok after) :
    after.graph.edgeCount ≤ sweep.graph.edgeCount ∧
      after.removedEdges + after.graph.edgeCount =
        sweep.removedEdges + sweep.graph.edgeCount := by
  obtain ⟨_, peeled, ran, peeling, _⟩ := visit_ok sweep consistent id
  rw [visited] at ran
  cases ran
  have fewer := (peeling.restriction consistent).edgeCount_add consistent
  refine ⟨by omega, ?_⟩
  cases leaf : sweep.graph.isRemovableLeaf id with
  | false =>
      rw [visit_of_not_leaf leaf] at visited
      cases visited
      rfl
  | true =>
      unfold visit at visited
      rw [if_pos leaf] at visited
      split at visited
      · cases visited
      · cases visited
        dsimp only at fewer ⊢
        omega

theorem foldlM_visit_edges {ids : List String} (consistent : sweep.graph.Consistent)
    (visited : ids.foldlM visit sweep = .ok after) :
    after.removedEdges + after.graph.edgeCount = sweep.removedEdges + sweep.graph.edgeCount := by
  induction ids generalizing sweep with
  | nil =>
      cases visited
      rfl
  | cons id ids ih =>
      obtain ⟨next, first, rest⟩ := foldlM_cons_ok visited
      obtain ⟨_, peeled, ran, peeling, _⟩ := visit_ok sweep consistent id
      rw [first] at ran
      cases ran
      rw [ih (peeling.restriction consistent).consistent rest, (visit_edges consistent first).2]

end Sweep

namespace Graph

theorem Consistent.sweep_edges {graph : Graph} {after : Sweep} (consistent : graph.Consistent)
    (swept : graph.sweep = .ok after) :
    after.removedEdges + after.graph.edgeCount = graph.edgeCount := by
  have start : (⟨graph, 0, 0⟩ : Sweep).graph.Consistent := consistent
  simpa using Sweep.foldlM_visit_edges start swept

theorem Consistent.sweep_consistent {graph : Graph} {after : Sweep} (consistent : graph.Consistent)
    (swept : graph.sweep = .ok after) : after.graph.Consistent :=
  (consistent.pass swept).restriction.consistent

theorem Consistent.pruneFrom_edges {graph left : Graph} {report total : PruneReport}
    (consistent : graph.Consistent) (pruned : graph.pruneFrom report = .ok (total, left)) :
    total.removedEdges + left.edgeCount = report.removedEdges + graph.edgeCount := by
  induction report, graph using Graph.pruneFrom.induct with
  | case1 report graph error failed =>
      obtain ⟨after, _, swept, _⟩ := consistent.sweep
      rw [failed] at swept
      cases swept
  | case2 report graph after swept last =>
      have counted := consistent.sweep_edges swept
      rw [pruneFrom_of_sweep swept, if_pos last] at pruned
      cases pruned
      simp only [PruneReport.next]
      omega
  | case3 report graph after swept next again ih =>
      have counted := consistent.sweep_edges swept
      rw [pruneFrom_of_sweep swept, if_neg again] at pruned
      have rest := ih (consistent.sweep_consistent swept) pruned
      simp only [next] at rest
      omega

theorem Meets.consistent {graph : Graph} {sweep : Sweep} {id : String}
    (meets : graph.Meets sweep id) (consistent : graph.Consistent) : sweep.graph.Consistent := by
  induction meets with
  | @now graph before _ _ _ _ ran =>
      obtain ⟨_, peeled, reached, peeling, _⟩ :=
        Sweep.foldlM_visit_ok ⟨graph, 0, 0⟩ consistent before
      rw [ran] at reached
      cases reached
      exact (peeling.restriction consistent).consistent
  | later swept _ _ ih => exact ih (consistent.sweep_consistent swept)

/-- A prune reports exactly the objects that are gone and the references that are gone with them: those
of which at least one end is gone, each of them once. Wherever a pass comes to an object there are no
more references afterwards than before, so none is left out of the count. -/
theorem prune_report_exact {nodes : List Node} {references : List Reference} {built : Graph}
    (accepted : ofRecords nodes references = .ok built) (changes : List Change) :
    ∃ report left, (built.run changes).prune = .ok (report, left) ∧
      report.removedNodes + left.nodeCount = (built.run changes).nodeCount ∧
      report.removedEdges + left.edgeCount = (built.run changes).edgeCount ∧
      report.removedNodes =
        ((built.run changes).nodes.filter fun node => node ∉ left.nodes).length ∧
      report.removedEdges = ((built.run changes).edges.filter
        fun edge => edge.src ∉ left.nodes ∨ edge.dst ∉ left.nodes).length ∧
      ((built.run changes).edges.map Edge.slot).Nodup ∧
      ∀ sweep id, (built.run changes).Meets sweep id → ∃ after, sweep.visit id = .ok after ∧
        after.graph.edgeCount ≤ sweep.graph.edgeCount ∧
        after.removedEdges + after.graph.edgeCount =
          sweep.removedEdges + sweep.graph.edgeCount := by
  have consistent := (ofRecords_holds accepted).1.run changes
  obtain ⟨report, peeled, left, pruned, peeling, _, removed⟩ := consistent.prune
  have kept := peeling.restriction_kept consistent
  have objects := peeling.nodeCount
  have objectsGone := kept.nodeCount_add consistent
  have counted := consistent.pruneFrom_edges pruned
  rw [Nat.zero_add] at counted
  have referencesGone := kept.edgeCount_add consistent
  simp only [Bool.not_and, ← decide_not, ← Bool.decide_or] at objectsGone referencesGone
  refine ⟨report, left, pruned, by omega, by omega, by omega, by omega, nodup_slots _, ?_⟩
  intro sweep id meets
  have reached := meets.consistent consistent
  obtain ⟨after, _, visited, _⟩ := Sweep.visit_ok sweep reached id
  exact ⟨after, visited, Sweep.visit_edges reached visited⟩

def loopDump : Dump :=
  ⟨[exampleNode "a" true, exampleNode "b" true],
    [⟨"a", "b", some "k"⟩, ⟨"b", "b", some "env"⟩, ⟨"a", "b", some "k"⟩]⟩

theorem loopDump_survivors : loopDump.Survivors [] := by
  have refers (src dst : String) : loopDump.Refers src dst ↔ src = "a" ∧ dst = "b" := by
    simp [Dump.Refers, loopDump, envName, eq_comm]
  refine ⟨⟨⟨by simp, by simp⟩, fun kept supports node inside => ?_⟩, by decide⟩
  have b : exampleNode "b" true ∉ kept :=
    supports.not_mem rfl fun target _ reference => by simp [refers, exampleNode] at reference
  have only : ∀ other ∈ loopDump.nodes, other.id = "b" → other = exampleNode "b" true := by decide
  have a : exampleNode "a" true ∉ kept := by
    refine supports.not_mem rfl fun target targetInside reference => b ?_
    rwa [← only target (supports.listed target targetInside) ((refers _ _).mp reference).2]
  have listed := supports.listed node inside
  simp only [loopDump, List.mem_cons, List.not_mem_nil, or_false] at listed
  rcases listed with rfl | rfl
  · exact absurd inside a
  · exact absurd inside b

/-- The loop at `b` is met from both of its ends, and the reference from `a` goes with `b`. -/
theorem prune_report_exact_loop :
    ∃ built report left, ofRecords loopDump.nodes loopDump.references = .ok built ∧
      (built.run []).prune = .ok (report, left) ∧ report.removedNodes = 2 ∧
      report.removedEdges = 2 ∧ left.edgeCount = 0 := by
  obtain ⟨built, accepted⟩ : ∃ built, ofDump loopDump = .ok built :=
    ofRecords_ok loopDump.nodes loopDump.references (by decide) (by decide)
  obtain ⟨_, live, holds⟩ := ofRecords_holds accepted
  obtain ⟨report, left, pruned, _, edgeSum, removedNodes, removedEdges, _⟩ :=
    prune_report_exact accepted []
  obtain ⟨_, _, ran, survivors, _⟩ := ofDump_survivors accepted
  change built.prune = .ok (report, left) at pruned
  rw [pruned] at ran
  cases ran
  have gone : left.nodes = [] := survivors.unique loopDump_survivors
  have nodes : report.removedNodes = 2 := by
    rw [removedNodes, gone]
    change (built.nodes.filter _).length = 2
    rw [live]
    rfl
  have edges : built.edges.length = 2 := by
    rw [← List.length_map Edge.reference, holds.references]
    decide
  have removed : report.removedEdges = 2 := by
    rw [removedEdges, gone]
    change (built.edges.filter _).length = 2
    simp [edges]
  refine ⟨built, report, left, accepted, pruned, nodes, removed, ?_⟩
  change report.removedEdges + left.edgeCount = built.edgeCount at edgeSum
  rw [(ofRecords_holds accepted).1.edgeCount_eq] at edgeSum
  omega

end Graph

end HeapGraph

import HeapGraph.Graph.Basic

/-!
Pruning: fixed objects that refer to nothing are taken out of a graph, again and again until none is
left.

A reference named `env` does not count, so a fixed closure that refers to its environment alone is
taken out as well.
-/

namespace HeapGraph

def envName : String := "env"

/-- What a pruning did. The last of the passes is the one that found nothing to take out. -/
structure PruneReport where
  passes : Nat
  removedNodes : Nat
  removedEdges : Nat
  deriving Repr, DecidableEq

structure Sweep where
  graph : Graph
  removedNodes : Nat
  removedEdges : Nat

namespace Graph

def isRemovableLeaf (graph : Graph) (id : String) : Bool :=
  match graph.node? id with
  | some node => node.fixed && (graph.forwardOf id).all (·.name = some envName)
  | none => false

end Graph

def Sweep.visit (sweep : Sweep) (id : String) : Except GraphError Sweep :=
  if sweep.graph.isRemovableLeaf id then
    match sweep.graph.remove id with
    | .error error => .error error
    | .ok (_, left) =>
      .ok ⟨left, sweep.removedNodes + 1,
        sweep.removedEdges + (sweep.graph.edgeCount - left.edgeCount)⟩
  else .ok sweep

theorem Sweep.visit_count {sweep after : Sweep} {id : String}
    (visited : sweep.visit id = .ok after) :
    after.graph.nodeCount + after.removedNodes = sweep.graph.nodeCount + sweep.removedNodes := by
  unfold Sweep.visit at visited
  split at visited
  · split at visited
    · cases visited
    · rename_i removed
      have fewer := Graph.nodeCount_remove removed
      cases visited
      simp only
      omega
  · cases visited
    rfl

theorem Sweep.foldlM_visit_count {ids : List String} {sweep after : Sweep}
    (visited : ids.foldlM Sweep.visit sweep = .ok after) :
    after.graph.nodeCount + after.removedNodes = sweep.graph.nodeCount + sweep.removedNodes := by
  induction ids generalizing sweep with
  | nil =>
    cases visited
    rfl
  | cons id ids ih =>
    rw [List.foldlM_cons] at visited
    cases first : sweep.visit id with
    | error error => rw [first] at visited; cases visited
    | ok next =>
      rw [first] at visited
      rw [ih visited, Sweep.visit_count first]

namespace Graph

def sweep (graph : Graph) : Except GraphError Sweep :=
  (graph.nodes.map Node.id).foldlM Sweep.visit ⟨graph, 0, 0⟩

theorem sweep_count {graph : Graph} {after : Sweep} (swept : graph.sweep = .ok after) :
    after.graph.nodeCount + after.removedNodes = graph.nodeCount := by
  simpa using Sweep.foldlM_visit_count swept

/-- Passes over the graph until one takes nothing out; `report` tells of the passes before. -/
def pruneFrom (report : PruneReport) (graph : Graph) : Except GraphError (PruneReport × Graph) :=
  match _swept : graph.sweep with
  | .error error => .error error
  | .ok after =>
    let report : PruneReport :=
      ⟨report.passes + 1, report.removedNodes + after.removedNodes,
        report.removedEdges + after.removedEdges⟩
    if after.removedNodes = 0 then .ok (report, after.graph) else pruneFrom report after.graph
termination_by graph.nodeCount
decreasing_by
  have fewer := sweep_count _swept
  omega

def prune (graph : Graph) : Except GraphError (PruneReport × Graph) :=
  graph.pruneFrom ⟨0, 0, 0⟩

end Graph

end HeapGraph

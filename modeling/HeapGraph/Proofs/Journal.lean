import HeapGraph.Journal
import HeapGraph.Proofs.Graph.Pruning
import HeapGraph.Proofs.Loops

/-!
What is logged of a prune, held against what the prune reports: there is one event for each object that
is taken out and one for each pass, and none that is shown by default.
-/

namespace HeapGraph

/-- How many of the events of a prune are of a level. -/
def PruneReport.logged (report : PruneReport) : Level → Nat
  | .trace => report.removedNodes
  | .debug => report.passes
  | .info => 0

namespace Sweep

theorem removedNodes_visit {sweep next : Sweep} {id : String}
    (visited : sweep.visit id = .ok next) :
    next.removedNodes =
      if sweep.graph.isRemovableLeaf id then sweep.removedNodes + 1 else sweep.removedNodes := by
  unfold visit at visited
  split at visited
  · rename_i leaf
    rw [if_pos leaf]
    split at visited
    · cases visited
    · cases visited
      rfl
  · rename_i stays
    rw [if_neg stays]
    cases visited
    rfl

theorem length_takenOut {ids : List String} {sweep after : Sweep}
    (visited : ids.foldlM visit sweep = .ok after) :
    sweep.removedNodes + (sweep.takenOut ids).length = after.removedNodes := by
  induction ids generalizing sweep with
  | nil =>
      cases visited
      rfl
  | cons id ids ih =>
      obtain ⟨next, first, others⟩ := foldlM_cons_ok visited
      have counted := removedNodes_visit first
      have rest := ih others
      rw [takenOut, first]
      dsimp only
      split
      · rename_i leaf
        rw [if_pos leaf] at counted
        rw [List.length_cons]
        omega
      · rename_i stays
        rw [if_neg stays] at counted
        omega

end Sweep

namespace Graph

theorem length_sweepEvents {graph : Graph} {after : Sweep} (swept : graph.sweep = .ok after) :
    graph.sweepEvents.length = after.removedNodes := by
  rw [sweepEvents, List.length_map, ← Sweep.length_takenOut swept, Nat.zero_add]

theorem pruneEvents_of_sweep {graph : Graph} {after : Sweep} (swept : graph.sweep = .ok after)
    (passes : Nat) :
    graph.pruneEvents passes = graph.sweepEvents ++ .pass (passes + 1) after.removedNodes ::
      if after.removedNodes = 0 then [] else after.graph.pruneEvents (passes + 1) := by
  rw [pruneEvents]
  split
  next error failed =>
    rw [swept] at failed
    cases failed
  next found ran =>
    rw [swept] at ran
    cases ran
    rfl

theorem countP_sweepEvents (graph : Graph) (level : Level) :
    graph.sweepEvents.countP (·.level = level) =
      if level = .trace then graph.sweepEvents.length else 0 := by
  rw [sweepEvents, List.countP_map]
  cases level <;> simp [Function.comp_def, Event.removed]

/-- What is logged of a pass comes to what the report is carried on by. -/
theorem countP_next {graph : Graph} {after : Sweep} (swept : graph.sweep = .ok after)
    (report : PruneReport) (level : Level) (more : List Event) :
    (graph.sweepEvents ++ .pass (report.passes + 1) after.removedNodes :: more).countP
        (·.level = level) + report.logged level =
      more.countP (·.level = level) + (report.next after).logged level := by
  rw [List.countP_append, List.countP_cons, countP_sweepEvents, length_sweepEvents swept]
  cases level <;> simp [PruneReport.logged, PruneReport.next, Event.pass] <;> omega

theorem countP_pruneEvents {graph left : Graph} {report total : PruneReport}
    (pruned : graph.pruneFrom report = .ok (total, left)) (level : Level) :
    (graph.pruneEvents report.passes).countP (·.level = level) + report.logged level =
      total.logged level := by
  induction report, graph using Graph.pruneFrom.induct with
  | case1 report graph error failed =>
      rw [pruneFrom] at pruned
      split at pruned
      · cases pruned
      · rename_i found ran
        rw [failed] at ran
        cases ran
  | case2 report graph after swept last =>
      rw [pruneFrom_of_sweep swept, if_pos last] at pruned
      cases pruned
      rw [pruneEvents_of_sweep swept, if_pos last, countP_next swept, List.countP_nil, Nat.zero_add]
  | case3 report graph after swept next again ih =>
      rw [pruneFrom_of_sweep swept, if_neg again] at pruned
      rw [pruneEvents_of_sweep swept, if_neg again, countP_next swept]
      exact ih pruned

/-- A prune logs one event for each object that it takes out and one for each of its passes, as it
reports them, and none at the level that is shown by default. -/
theorem prune_logged {graph left : Graph} {report : PruneReport}
    (pruned : graph.prune = .ok (report, left)) :
    (graph.pruneEvents 0).countP (·.level = .trace) = report.removedNodes ∧
      (graph.pruneEvents 0).countP (·.level = .debug) = report.passes ∧
      ∀ event ∈ graph.pruneEvents 0, event.level ≠ .info := by
  have counted (level : Level) : (graph.pruneEvents 0).countP (·.level = level) =
      report.logged level := by
    have fromStart := countP_pruneEvents pruned level
    cases level <;> exact fromStart
  refine ⟨counted .trace, counted .debug, fun event logged => ?_⟩
  have silent := List.countP_eq_zero.mp (counted .info) event logged
  simpa using silent

end Graph

end HeapGraph

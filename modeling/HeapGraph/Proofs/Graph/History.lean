import HeapGraph.Proofs.Graph.Checking
import HeapGraph.Proofs.Graph.Pruning
import HeapGraph.Proofs.Graph.Refusal

/-!
Histories: a graph is built and then changed by any number of removals and prunes. In every state
that a history leads to the parts of the graph agree, so that the check finds no fault, no change comes
upon one, and the counter of references never has to go below zero.
-/

namespace HeapGraph

inductive Change where
  | remove (id : String)
  | prune
  deriving Repr, DecidableEq

namespace Graph

/-- A graph after a call. One that fails leaves it as it is. -/
def change (graph : Graph) : Change → Graph
  | .remove id =>
    match graph.remove id with
    | .ok (_, left) => left
    | .error _ => graph
  | .prune =>
    match graph.prune with
    | .ok (_, left) => left
    | .error _ => graph

def run (graph : Graph) (changes : List Change) : Graph :=
  changes.foldl change graph

/-- In no state that the removal of an object comes through is there a reference to give up that the
counter does not count. -/
def CountsDown (graph : Graph) : Prop :=
  ∀ node before slot after, graph.incident node = before ++ slot :: after →
    ((before.foldl Graph.detach (graph.withoutBuckets node)).linkAt? slot).isSome →
    0 < (before.foldl Graph.detach (graph.withoutBuckets node)).liveEdges

structure Sound (graph : Graph) : Prop where
  consistent : graph.Consistent
  check : graph.check = .ok ()
  remove : ∀ id discord, graph.remove id ≠ .error (.inconsistent discord)
  prune : ∀ error, graph.prune ≠ .error error
  counts : graph.CountsDown

theorem run_cons (graph : Graph) (change : Change) (changes : List Change) :
    graph.run (change :: changes) = (graph.change change).run changes :=
  rfl

theorem run_append (graph : Graph) (first second : List Change) :
    graph.run (first ++ second) = (graph.run first).run second := by
  simp [run]

theorem change_remove {graph left : Graph} {id : String} {node : Node}
    (removed : graph.remove id = .ok (node, left)) : graph.change (.remove id) = left := by
  simp [change, removed]

theorem Consistent.change_remove {graph : Graph} (consistent : graph.Consistent) (id : String) :
    graph.Restriction (fun node => node.id != id) (graph.change (.remove id)) := by
  rcases consistent.remove_cases id with ⟨node, _, _, left, removed, restriction⟩ | ⟨absent, failed⟩
  · rwa [Graph.change_remove removed]
  · have same : graph.change (.remove id) = graph := by simp [change, failed]
    rw [same]
    exact (Restriction.refl consistent).congr fun node member => by simp [absent node member]

theorem Consistent.change_prune {graph : Graph} (consistent : graph.Consistent) :
    ∃ peeled, Peeling graph peeled (graph.change .prune) ∧ (graph.change .prune).Leafless := by
  obtain ⟨report, peeled, left, pruned, peeling, leafless, _⟩ := consistent.prune
  have same : graph.change .prune = left := by simp [change, pruned]
  rw [same]
  exact ⟨peeled, peeling, leafless⟩

theorem Consistent.change {graph : Graph} (consistent : graph.Consistent) (change : Change) :
    (graph.change change).Consistent := by
  cases change with
  | remove id => exact (consistent.change_remove id).consistent
  | prune =>
      obtain ⟨peeled, peeling, _⟩ := consistent.change_prune
      exact (peeling.restriction consistent).consistent

theorem Consistent.run {graph : Graph} (consistent : graph.Consistent) (changes : List Change) :
    (graph.run changes).Consistent := by
  induction changes generalizing graph with
  | nil => exact consistent
  | cons change changes ih => exact ih (consistent.change change)

theorem Peeling.eq_run {graph left : Graph} {ids : List String} (peeling : Peeling graph ids left) :
    left = graph.run (ids.map Change.remove) := by
  induction peeling with
  | done => rfl
  | step leaf removed _ ih => rw [ih, List.map_cons, run_cons, change_remove removed]

theorem Consistent.countsDown {graph : Graph} (consistent : graph.Consistent) :
    graph.CountsDown := by
  intro node before slot after _ occupied
  rw [foldl_detach_withoutBuckets] at occupied ⊢
  have reached := consistent.foldl_detach before
  obtain ⟨link, linked⟩ := Option.isSome_iff_exists.mp occupied
  have listed : link ∈ (before.foldl Graph.detach graph).links :=
    (mem_filterMap_slots _ link).mpr ⟨slot, linked⟩
  change 0 < (before.foldl Graph.detach graph).liveEdges
  rw [reached.count]
  exact List.length_pos_of_mem listed

theorem Consistent.sound {graph : Graph} (consistent : graph.Consistent) : graph.Sound := by
  refine ⟨consistent, consistent.check, ?_, ?_, consistent.countsDown⟩
  · intro id discord failed
    rcases consistent.remove_cases id with ⟨node, _, _, left, removed, _⟩ | ⟨_, absent⟩
    · rw [removed] at failed
      cases failed
    · rw [absent] at failed
      cases failed
  · intro error failed
    obtain ⟨report, peeled, left, pruned, _⟩ := consistent.prune
    rw [pruned] at failed
    cases failed

/-- Every history leads to a graph in order. So does every part of a pass of a prune, for all it
does is to remove objects; and building a graph never finds its parts at odds either. -/
theorem run_sound {nodes : List Node} {references : List Reference} {built : Graph}
    (accepted : ofRecords nodes references = .ok built) (changes : List Change) :
    (built.run changes).Sound ∧
      (∀ (ids : List String) (removedNodes removedEdges : Nat) (after : Sweep),
        ids.foldlM Sweep.visit ⟨built.run changes, removedNodes, removedEdges⟩ = .ok after →
        ∃ peeled : List String, after.graph = built.run (changes ++ peeled.map Change.remove)) ∧
      ∀ others records discord, ofRecords others records ≠ .error (.inconsistent discord) := by
  have consistent := (ofRecords_holds accepted).1.run changes
  refine ⟨consistent.sound, ?_, ofRecords_ne_inconsistent⟩
  intro ids removedNodes removedEdges after visited
  obtain ⟨found, peeled, ran, peeling, _⟩ :=
    Sweep.foldlM_visit_ok ⟨built.run changes, removedNodes, removedEdges⟩ consistent ids
  rw [visited] at ran
  cases ran
  exact ⟨peeled, by rw [run_append]; exact peeling.eq_run⟩

def exampleNode (id : String) (fixed : Bool) : Node :=
  ⟨id, "table", id, fixed, false, .white, 0⟩

theorem run_sound_loop :
    ∃ built, ofRecords [exampleNode "a" true, exampleNode "b" false]
        [⟨"a", "a", none⟩, ⟨"b", "a", some "k"⟩, ⟨"b", "a", none⟩, ⟨"b", "a", some "k"⟩] =
          .ok built ∧
      (built.run [.remove "x", .prune, .remove "a", .remove "a"]).Sound := by
  obtain ⟨built, accepted⟩ := ofRecords_ok
    [exampleNode "a" true, exampleNode "b" false]
    [⟨"a", "a", none⟩, ⟨"b", "a", some "k"⟩, ⟨"b", "a", none⟩, ⟨"b", "a", some "k"⟩]
    (by decide) (by decide)
  exact ⟨built, accepted, (run_sound accepted _).1⟩

end Graph

end HeapGraph

import HeapGraph.Graph.Prune
import HeapGraph.Proofs.Graph.Removal
import HeapGraph.Proofs.Graph.Views
import Mathlib.Order.Bounds.Basic

/-!
Pruning takes removable leaves out one after another until there is none. In whatever order leaves
are taken out, no set of objects that hold each other up ever loses a member, and once no leaf is left
the objects that remain are such a set themselves: the greatest one.
-/

namespace HeapGraph

namespace Graph

def Refers (graph : Graph) (src dst : Node) : Prop :=
  ∃ edge ∈ graph.edges, edge.src = src ∧ edge.dst = dst ∧ edge.name ≠ some envName

/-- A set of objects that hold each other up: each fixed one refers to one of them. -/
structure Supports (graph : Graph) (kept : Set Node) : Prop where
  live : ∀ node ∈ kept, node ∈ graph.nodes
  held : ∀ node ∈ kept, node.fixed = true → ∃ target ∈ kept, graph.Refers node target

def Leafless (graph : Graph) : Prop :=
  ∀ id, graph.isRemovableLeaf id = false

/-- Removable leaves taken out one after another, in the order of the list. -/
inductive Peeling : Graph → List String → Graph → Prop
  | done (graph : Graph) : Peeling graph [] graph
  | step {graph middle left : Graph} {id : String} {ids : List String} {node : Node} :
      graph.isRemovableLeaf id = true → graph.remove id = .ok (node, middle) →
      Peeling middle ids left → Peeling graph (id :: ids) left

theorem Refers.dst_mem {graph : Graph} {src dst : Node} (refers : graph.Refers src dst) :
    dst ∈ graph.nodes := by
  obtain ⟨edge, member, _, rfl, _⟩ := refers
  exact dst_mem_nodes member

theorem Agrees.isRemovableLeaf_iff {graph : Graph} (agrees : graph.Agrees) {node : Node}
    (member : node ∈ graph.nodes) :
    graph.isRemovableLeaf node.id = true ↔
      node.fixed = true ∧ ∀ target, ¬graph.Refers node target := by
  unfold isRemovableLeaf
  rw [agrees.node?_eq_some.mpr ⟨member, rfl⟩, agrees.forwardOf_eq]
  simp only [Bool.and_eq_true, List.all_eq_true, List.mem_filter, decide_eq_true_eq]
  refine and_congr_right fun _ => ?_
  constructor
  · rintro exempt target ⟨edge, edgeMember, rfl, _, counts⟩
    exact counts (exempt edge ⟨edgeMember, rfl⟩)
  · rintro bare edge ⟨edgeMember, same⟩
    by_contra counts
    have src := agrees.node_unique (src_mem_nodes edgeMember) member same
    exact bare edge.dst ⟨edge, edgeMember, src, rfl, counts⟩

theorem Agrees.mem_of_isRemovableLeaf {graph : Graph} (agrees : graph.Agrees) {id : String}
    (leaf : graph.isRemovableLeaf id = true) : ∃ node ∈ graph.nodes, node.id = id := by
  unfold isRemovableLeaf at leaf
  split at leaf
  next node found =>
    obtain ⟨member, same⟩ := agrees.node?_eq_some.mp found
    exact ⟨node, member, same⟩
  next => cases leaf

namespace Restriction

variable {graph left : Graph} {keep : Node → Bool}

theorem mem_nodes (restriction : graph.Restriction keep left) {node : Node} :
    node ∈ left.nodes ↔ node ∈ graph.nodes ∧ keep node = true := by
  rw [restriction.nodes, List.mem_filter]

theorem refers_iff (restriction : graph.Restriction keep left) {src dst : Node} :
    left.Refers src dst ↔ graph.Refers src dst ∧ keep src = true ∧ keep dst = true := by
  unfold Refers
  simp only [restriction.edges, List.mem_filter, Bool.and_eq_true]
  constructor
  · rintro ⟨edge, ⟨member, srcKept, dstKept⟩, rfl, rfl, counts⟩
    exact ⟨⟨edge, member, rfl, rfl, counts⟩, srcKept, dstKept⟩
  · rintro ⟨⟨edge, member, rfl, rfl, counts⟩, srcKept, dstKept⟩
    exact ⟨edge, ⟨member, srcKept, dstKept⟩, rfl, rfl, counts⟩

theorem supports_iff (restriction : graph.Restriction keep left) {kept : Set Node} :
    left.Supports kept ↔ graph.Supports kept ∧ ∀ node ∈ kept, keep node = true := by
  constructor
  · intro supports
    refine ⟨⟨fun node member => ?_, fun node member fixed => ?_⟩, fun node member => ?_⟩
    · exact (restriction.mem_nodes.mp (supports.live node member)).1
    · obtain ⟨target, targetKept, refers⟩ := supports.held node member fixed
      exact ⟨target, targetKept, (restriction.refers_iff.mp refers).1⟩
    · exact (restriction.mem_nodes.mp (supports.live node member)).2
  · rintro ⟨supports, inside⟩
    constructor
    · intro node member
      exact restriction.mem_nodes.mpr ⟨supports.live node member, inside node member⟩
    · intro node member fixed
      obtain ⟨target, targetKept, refers⟩ := supports.held node member fixed
      exact ⟨target, targetKept,
        restriction.refers_iff.mpr ⟨refers, inside node member, inside target targetKept⟩⟩

theorem eq_of_nodes {right : Graph}
    (leftKept : graph.Restriction (fun node => decide (node ∈ left.nodes)) left)
    (rightKept : graph.Restriction (fun node => decide (node ∈ right.nodes)) right)
    (same : {node | node ∈ left.nodes} = {node | node ∈ right.nodes}) : left = right :=
  leftKept.unique (rightKept.congr fun node _ =>
    decide_eq_decide.mpr (Set.ext_iff.mp same node).symm)

end Restriction

namespace Peeling

variable {graph middle left : Graph} {ids more : List String}

theorem append (first : Peeling graph ids middle) (second : Peeling middle more left) :
    Peeling graph (ids ++ more) left := by
  induction first with
  | done => exact second
  | step leaf removed _ ih => exact Peeling.step leaf removed (ih second)

theorem first {id : String} {node : Node} (consistent : graph.Consistent)
    (leaf : graph.isRemovableLeaf id = true) (removed : graph.remove id = .ok (node, middle)) :
    graph.Restriction (fun kept => kept.id != id) middle ∧
      ∀ kept, graph.Supports kept → ∀ member ∈ kept, member.id ≠ id := by
  obtain ⟨node, live, rfl⟩ := consistent.mem_of_isRemovableLeaf leaf
  obtain ⟨fixed, bare⟩ := (consistent.isRemovableLeaf_iff live).mp leaf
  obtain ⟨next, ran, restriction⟩ := consistent.remove live
  rw [removed] at ran
  cases ran
  refine ⟨restriction, fun kept supports member inside same => ?_⟩
  have equal := consistent.node_unique (supports.live member inside) live same
  subst equal
  obtain ⟨target, _, refers⟩ := supports.held member inside fixed
  exact bare target refers

theorem restriction (peeling : Peeling graph ids left) (consistent : graph.Consistent) :
    graph.Restriction (fun node => !ids.contains node.id) left := by
  induction peeling with
  | done => exact Restriction.refl consistent
  | step leaf removed _ ih =>
      obtain ⟨restriction, _⟩ := first consistent leaf removed
      exact restriction.cons (ih restriction.consistent)

theorem supported (peeling : Peeling graph ids left) (consistent : graph.Consistent)
    {kept : Set Node} (supports : graph.Supports kept) : left.Supports kept := by
  induction peeling with
  | done => exact supports
  | step leaf removed _ ih =>
      obtain ⟨restriction, apart⟩ := first consistent leaf removed
      refine ih restriction.consistent
        (restriction.supports_iff.mpr ⟨supports, fun node member => ?_⟩)
      simpa using apart kept supports node member

theorem nodeCount (peeling : Peeling graph ids left) :
    left.nodeCount + ids.length = graph.nodeCount := by
  induction peeling with
  | done => rfl
  | step leaf removed _ ih =>
      have fewer := nodeCount_remove removed
      simp only [List.length_cons]
      omega

end Peeling

theorem Agrees.supports_of_leafless {graph : Graph} (agrees : graph.Agrees)
    (leafless : graph.Leafless) : graph.Supports {node | node ∈ graph.nodes} := by
  refine ⟨fun node member => member, fun node member fixed => ?_⟩
  by_contra bare
  have leaf : graph.isRemovableLeaf node.id = true :=
    (agrees.isRemovableLeaf_iff member).mpr
      ⟨fixed, fun target refers => bare ⟨target, refers.dst_mem, refers⟩⟩
  rw [leafless node.id] at leaf
  cases leaf

/-- However the leaves are taken out, what is left is the greatest set of objects that hold each
other up. -/
theorem Peeling.greatest {graph left : Graph} {ids : List String} (peeling : Peeling graph ids left)
    (consistent : graph.Consistent) (leafless : left.Leafless) :
    IsGreatest {kept | graph.Supports kept} {node | node ∈ left.nodes} := by
  have restriction := peeling.restriction consistent
  constructor
  · have own := restriction.consistent.supports_of_leafless leafless
    exact (restriction.supports_iff.mp own).1
  · intro kept supports node member
    exact (peeling.supported consistent supports).live node member

theorem Peeling.restriction_kept {graph left : Graph} {ids : List String}
    (peeling : Peeling graph ids left) (consistent : graph.Consistent) :
    graph.Restriction (fun node => decide (node ∈ left.nodes)) left := by
  have restriction := peeling.restriction consistent
  refine restriction.congr fun node member => ?_
  rw [Bool.eq_iff_iff, decide_eq_true_eq, restriction.mem_nodes]
  exact (and_iff_right member).symm

theorem Peeling.unique {graph left right : Graph} {leftIds rightIds : List String}
    (leftPeeling : Peeling graph leftIds left) (rightPeeling : Peeling graph rightIds right)
    (consistent : graph.Consistent) (leftLeafless : left.Leafless)
    (rightLeafless : right.Leafless) : left = right := by
  have same : {node | node ∈ left.nodes} = {node | node ∈ right.nodes} :=
    (leftPeeling.greatest consistent leftLeafless).unique
      (rightPeeling.greatest consistent rightLeafless)
  exact (leftPeeling.restriction_kept consistent).eq_of_nodes
    (rightPeeling.restriction_kept consistent) same

end Graph

def PruneReport.next (report : PruneReport) (pass : Sweep) : PruneReport :=
  ⟨report.passes + 1, report.removedNodes + pass.removedNodes,
    report.removedEdges + pass.removedEdges⟩

namespace Sweep

theorem visit_of_not_leaf {sweep : Sweep} {id : String}
    (stays : sweep.graph.isRemovableLeaf id = false) : sweep.visit id = .ok sweep := by
  simp [visit, stays]

theorem visit_ok (sweep : Sweep) (consistent : sweep.graph.Consistent) (id : String) :
    ∃ after peeled, sweep.visit id = .ok after ∧ Graph.Peeling sweep.graph peeled after.graph ∧
      after.removedNodes = sweep.removedNodes + peeled.length ∧
      (peeled = [] → after = sweep ∧ sweep.graph.isRemovableLeaf id = false) ∧
      peeled.Sublist [id] := by
  cases leaf : sweep.graph.isRemovableLeaf id with
  | false =>
      exact ⟨sweep, [], visit_of_not_leaf leaf, Graph.Peeling.done _, rfl, fun _ => ⟨rfl, rfl⟩,
        List.nil_sublist _⟩
  | true =>
      obtain ⟨node, member, rfl⟩ := consistent.mem_of_isRemovableLeaf leaf
      obtain ⟨left, removed, _⟩ := consistent.remove member
      refine ⟨⟨left, sweep.removedNodes + 1,
        sweep.removedEdges + (sweep.graph.edgeCount - left.edgeCount)⟩, [node.id], ?_,
        Graph.Peeling.step leaf removed (Graph.Peeling.done left), rfl, ?_, List.Sublist.refl _⟩
      · unfold visit
        rw [if_pos leaf, removed]
      · intro none
        cases none

theorem foldlM_visit_ok (sweep : Sweep) (consistent : sweep.graph.Consistent) (ids : List String) :
    ∃ after peeled, ids.foldlM visit sweep = .ok after ∧
      Graph.Peeling sweep.graph peeled after.graph ∧
      after.removedNodes = sweep.removedNodes + peeled.length ∧
      (peeled = [] → after = sweep ∧ ∀ id ∈ ids, sweep.graph.isRemovableLeaf id = false) ∧
      peeled.Sublist ids := by
  induction ids generalizing sweep with
  | nil =>
      exact ⟨sweep, [], rfl, Graph.Peeling.done _, rfl, fun _ => ⟨rfl, by simp⟩,
        List.nil_sublist _⟩
  | cons id ids ih =>
      obtain ⟨next, first, visited, peeling, count, none, visitedOnce⟩ := visit_ok sweep consistent id
      have nextConsistent := (peeling.restriction consistent).consistent
      obtain ⟨after, rest, ran, more, total, noneLeft, others⟩ := ih next nextConsistent
      refine ⟨after, first ++ rest, ?_, peeling.append more, ?_, ?_, visitedOnce.append others⟩
      · rw [List.foldlM_cons, visited]
        exact ran
      · rw [total, count, List.length_append]
        omega
      · intro nothing
        obtain ⟨firstNone, restNone⟩ := List.append_eq_nil_iff.mp nothing
        obtain ⟨rfl, stays⟩ := none firstNone
        obtain ⟨rfl, stay⟩ := noneLeft restNone
        exact ⟨rfl, List.forall_mem_cons.mpr ⟨stays, stay⟩⟩

end Sweep

namespace Graph

theorem Agrees.leafless_of_ids {graph : Graph} (agrees : graph.Agrees)
    (stay : ∀ id ∈ graph.nodes.map Node.id, graph.isRemovableLeaf id = false) : graph.Leafless := by
  intro id
  cases leaf : graph.isRemovableLeaf id with
  | false => rfl
  | true =>
      obtain ⟨node, member, rfl⟩ := agrees.mem_of_isRemovableLeaf leaf
      rw [stay node.id (List.mem_map_of_mem member)] at leaf
      cases leaf

theorem Consistent.sweep {graph : Graph} (consistent : graph.Consistent) :
    ∃ after peeled, graph.sweep = .ok after ∧ Peeling graph peeled after.graph ∧
      after.removedNodes = peeled.length ∧
      (peeled = [] → after.graph = graph ∧ graph.Leafless) := by
  obtain ⟨after, peeled, swept, peeling, count, none, _⟩ :=
    Sweep.foldlM_visit_ok ⟨graph, 0, 0⟩ consistent (graph.nodes.map Node.id)
  refine ⟨after, peeled, swept, peeling, by simpa using count, fun nothing => ?_⟩
  obtain ⟨rfl, stay⟩ := none nothing
  exact ⟨rfl, consistent.leafless_of_ids stay⟩

theorem pruneFrom_of_sweep {graph : Graph} {after : Sweep} (swept : graph.sweep = .ok after)
    (report : PruneReport) :
    graph.pruneFrom report =
      if after.removedNodes = 0 then .ok (report.next after, after.graph)
      else after.graph.pruneFrom (report.next after) := by
  rw [pruneFrom]
  split
  next error failed =>
    rw [swept] at failed
    cases failed
  next found ran =>
    rw [swept] at ran
    cases ran
    rfl

theorem Consistent.pruneFrom {graph : Graph} (consistent : graph.Consistent)
    (report : PruneReport) :
    ∃ total peeled left, graph.pruneFrom report = .ok (total, left) ∧
      Peeling graph peeled left ∧ left.Leafless ∧
      total.removedNodes = report.removedNodes + peeled.length := by
  induction report, graph using Graph.pruneFrom.induct with
  | case1 report graph error failed =>
      obtain ⟨after, _, swept, _⟩ := consistent.sweep
      rw [failed] at swept
      cases swept
  | case2 report graph after swept last =>
      obtain ⟨found, peeled, ran, peeling, count, none⟩ := consistent.sweep
      rw [swept] at ran
      cases ran
      -- A pass that takes nothing out has met the same graph at every object.
      have nothing : peeled = [] := List.length_eq_zero_iff.mp (count.symm.trans last)
      obtain ⟨same, leafless⟩ := none nothing
      rw [same] at peeling
      refine ⟨report.next after, peeled, graph, ?_, peeling, leafless, ?_⟩
      · rw [pruneFrom_of_sweep swept, if_pos last, same]
      · rw [PruneReport.next, count]
  | case3 report graph after swept total again ih =>
      obtain ⟨found, peeled, ran, peeling, count, _⟩ := consistent.sweep
      rw [swept] at ran
      cases ran
      obtain ⟨final, rest, left, pruned, more, leafless, counted⟩ :=
        ih (peeling.restriction consistent).consistent
      refine ⟨final, peeled ++ rest, left, ?_, peeling.append more, leafless, ?_⟩
      · rw [pruneFrom_of_sweep swept, if_neg again]
        exact pruned
      · rw [counted, List.length_append, ← count]
        simp only [total]
        omega

theorem Consistent.prune {graph : Graph} (consistent : graph.Consistent) :
    ∃ report peeled left, graph.prune = .ok (report, left) ∧ Peeling graph peeled left ∧
      left.Leafless ∧ report.removedNodes = peeled.length := by
  obtain ⟨report, peeled, left, ran, peeling, leafless, removed⟩ :=
    consistent.pruneFrom ⟨0, 0, 0⟩
  exact ⟨report, peeled, left, ran, peeling, leafless, by simpa using removed⟩

end Graph

end HeapGraph

import HeapGraph.Proofs.Dump.Support
import Mathlib.Algebra.GroupWithZero.Nat

/-!
How many passes a prune makes. A pass comes to the objects in the order they were added in, so it takes
out an object together with those it refers to as long as these were added before it. An object that
refers to one added later has to wait for the next pass, and the longest wait along a walk of removed
objects tells the number of passes.
-/

namespace HeapGraph.Graph

def Precedes (graph : Graph) (first second : Node) : Prop :=
  [first, second].Sublist graph.nodes

instance (graph : Graph) (first second : Node) : Decidable (graph.Precedes first second) :=
  inferInstanceAs (Decidable ([first, second].Sublist graph.nodes))

theorem Agrees.not_precedes {graph : Graph} (agrees : graph.Agrees) {first second : Node}
    (precedes : graph.Precedes first second) : ¬graph.Precedes second first := by
  intro back
  obtain ⟨before, after, same, early, late⟩ := List.cons_sublist_iff.mp precedes
  obtain ⟨front, rest, again, secondFront, firstRest⟩ := List.cons_sublist_iff.mp back
  rw [List.singleton_sublist] at late firstRest
  have unique := agrees.nodup_nodes
  have apart : ∀ node ∈ before, node ∉ after := by
    rw [same, List.nodup_append] at unique
    exact fun node left right => unique.2.2 node left node right rfl
  have split : before ++ after = front ++ rest := same.symm.trans again
  rcases List.append_eq_append_iff.mp split with ⟨middle, rfl, rfl⟩ | ⟨middle, rfl, rfl⟩
  · exact apart first early (List.mem_append_right middle firstRest)
  · exact apart second (List.mem_append_left middle secondFront) late

theorem Restriction.precedes_iff {graph left : Graph} {keep : Node → Bool}
    (restriction : graph.Restriction keep left) {first second : Node} (firstLive : first ∈ left.nodes)
    (secondLive : second ∈ left.nodes) :
    left.Precedes first second ↔ graph.Precedes first second := by
  have firstKept := (restriction.mem_nodes.mp firstLive).2
  have secondKept := (restriction.mem_nodes.mp secondLive).2
  unfold Precedes
  rw [restriction.nodes]
  constructor
  · exact fun precedes => precedes.trans List.filter_sublist
  · intro precedes
    simpa [firstKept, secondKept] using precedes.filter keep

def Loses (graph left : Graph) (node : Node) : Prop :=
  node ∈ graph.nodes ∧ node ∉ left.nodes

/-- What one pass does: it takes an object out behind all those it refers to, and leaves a fixed one
only if it refers to an object that stays or whose turn is yet to come. -/
structure Pass (graph middle : Graph) : Prop where
  restriction : graph.Restriction (fun node => decide (node ∈ middle.nodes)) middle
  removed : ∀ node target, graph.Loses middle node → graph.Refers node target →
    graph.Loses middle target ∧ graph.Precedes target node
  kept : ∀ node ∈ middle.nodes, node.fixed = true →
    ∃ target, graph.Refers node target ∧ (target ∈ middle.nodes ∨ graph.Precedes node target)

end HeapGraph.Graph

namespace HeapGraph

open HeapGraph.Graph

/-- A pass as it comes to an object: those gone by now were added before it, those that go later are
added behind it, and it goes itself just if it is a leaf by now. -/
theorem Sweep.turn {graph : Graph} {after : Sweep} (consistent : graph.Consistent)
    (swept : graph.sweep = .ok after) {node : Node} (member : node ∈ graph.nodes) :
    ∃ turn gone later, Peeling graph gone turn ∧ Peeling turn later after.graph ∧
      (∀ other ∈ graph.nodes, other.id ∈ gone → graph.Precedes other node) ∧
      (∀ other ∈ graph.nodes, other.id ∈ later → other = node ∨ graph.Precedes node other) ∧
      (node.id ∈ later ↔ turn.isRemovableLeaf node.id = true) := by
  obtain ⟨before, rest, listed⟩ := List.append_of_mem member
  have unique := consistent.nodup_ids
  rw [listed, List.map_append, List.map_cons, List.nodup_append, List.nodup_cons] at unique
  have known (ids : List Node) (inside : ids ⊆ graph.nodes) {other : Node}
      (live : other ∈ graph.nodes) (named : other.id ∈ ids.map Node.id) : other ∈ ids := by
    obtain ⟨found, foundMember, same⟩ := List.mem_map.mp named
    rwa [← consistent.node_unique (inside foundMember) live same]
  have run := swept
  rw [Graph.sweep, listed, List.map_append, List.map_cons] at run
  obtain ⟨turn, ranBefore, ranRest⟩ := foldlM_append_ok run
  obtain ⟨next, visited, ranAfter⟩ := foldlM_cons_ok ranRest
  obtain ⟨_, gone, ran, peeling, _, _, goneListed⟩ :=
    foldlM_visit_ok ⟨graph, 0, 0⟩ consistent (before.map Node.id)
  rw [ranBefore] at ran
  cases ran
  have turnConsistent := (peeling.restriction consistent).consistent
  obtain ⟨_, own, ran, ownPeeling, _, none, ownListed⟩ := visit_ok turn turnConsistent node.id
  rw [visited] at ran
  cases ran
  obtain ⟨_, more, ran, morePeeling, _, _, moreListed⟩ :=
    foldlM_visit_ok next (ownPeeling.restriction turnConsistent).consistent (rest.map Node.id)
  rw [ranAfter] at ran
  cases ran
  refine ⟨turn.graph, gone, own ++ more, peeling, ownPeeling.append morePeeling, ?_, ?_, ?_⟩
  · intro other live named
    have early : other ∈ before :=
      known before (by rw [listed]; exact List.subset_append_left _ _) live (goneListed.subset named)
    unfold Precedes
    rw [listed]
    exact (List.singleton_sublist.mpr early).append ((List.nil_sublist rest).cons_cons node)
  · intro other live named
    rcases List.mem_append.mp named with ofOwn | ofMore
    · have same : other.id = node.id := List.mem_singleton.mp (ownListed.subset ofOwn)
      exact Or.inl (consistent.node_unique live member same)
    · have late : other ∈ rest :=
        known rest (by rw [listed]; intro found inRest; simp [inRest]) live (moreListed.subset ofMore)
      refine Or.inr ?_
      unfold Precedes
      rw [listed]
      exact ((List.singleton_sublist.mpr late).cons_cons node).trans
        (List.sublist_append_right before _)
  · have notLater : node.id ∉ more := fun named => unique.2.1.1 (moreListed.subset named)
    rw [List.mem_append, or_iff_left notLater]
    rcases List.sublist_singleton.mp ownListed with rfl | rfl
    · simp [(none rfl).2]
    · cases ownPeeling with
      | step leaf _ _ => simp [leaf]

namespace Graph

theorem Consistent.pass {graph : Graph} {after : Sweep} (consistent : graph.Consistent)
    (swept : graph.sweep = .ok after) : graph.Pass after.graph := by
  obtain ⟨_, peeled, ran, peeling, _⟩ := consistent.sweep
  rw [swept] at ran
  cases ran
  refine ⟨peeling.restriction_kept consistent, ?_, ?_⟩
  · rintro node target ⟨live, taken⟩ refers
    obtain ⟨turn, gone, later, before, behind, early, _, leaf⟩ := Sweep.turn consistent swept live
    have first := before.restriction consistent
    have second := behind.restriction first.consistent
    have notGone : node.id ∉ gone := fun named =>
      consistent.not_precedes (early node live named) (early node live named)
    have there : node ∈ turn.nodes := first.mem_nodes.mpr ⟨live, by simpa using notGone⟩
    have named : node.id ∈ later := by
      by_contra absent
      exact taken (second.mem_nodes.mpr ⟨there, by simpa using absent⟩)
    have bare := ((first.consistent.isRemovableLeaf_iff there).mp (leaf.mp named)).2
    have targetGone : target.id ∈ gone := by
      by_contra absent
      exact bare target (first.refers_iff.mpr
        ⟨refers, by simpa using notGone, by simpa using absent⟩)
    refine ⟨⟨refers.dst_mem, fun stays => ?_⟩, early target refers.dst_mem targetGone⟩
    have present := (first.mem_nodes.mp (second.mem_nodes.mp stays).1).2
    simp [targetGone] at present
  · intro node stays fixed
    have live := (peeling.restriction consistent).mem_nodes.mp stays |>.1
    obtain ⟨turn, gone, later, before, behind, _, late, leaf⟩ := Sweep.turn consistent swept live
    have first := before.restriction consistent
    have second := behind.restriction first.consistent
    obtain ⟨there, notLater⟩ := second.mem_nodes.mp stays
    have held : ∃ target, turn.Refers node target := by
      by_contra bare
      have named := leaf.mpr ((first.consistent.isRemovableLeaf_iff there).mpr
        ⟨fixed, not_exists.mp bare⟩)
      simp [named] at notLater
    obtain ⟨target, refers⟩ := held
    refine ⟨target, (first.refers_iff.mp refers).1, ?_⟩
    by_cases targetStays : target ∈ after.graph.nodes
    · exact Or.inl targetStays
    · have named : target.id ∈ later := by
        by_contra absent
        exact targetStays (second.mem_nodes.mpr ⟨refers.dst_mem, by simpa using absent⟩)
      rcases late target (first.mem_nodes.mp refers.dst_mem).1 named with rfl | behindNode
      · exact absurd stays targetStays
      · exact Or.inr behindNode

theorem Peeling.loses {graph left : Graph} {ids : List String} (peeling : Peeling graph ids left)
    (consistent : graph.Consistent) (some : ids ≠ []) : ∃ node, graph.Loses left node := by
  have restriction := peeling.restriction consistent
  cases peeling with
  | done => exact absurd rfl some
  | step leaf _ _ =>
      obtain ⟨node, member, rfl⟩ := consistent.mem_of_isRemovableLeaf leaf
      refine ⟨node, member, fun stays => ?_⟩
      simpa using (restriction.mem_nodes.mp stays).2

section Lost

variable {graph left : Graph} {node target : Node}

theorem Loses.fixed (lost : graph.Loses left node)
    (greatest : IsGreatest {kept | graph.Supports kept} {node | node ∈ left.nodes}) :
    node.fixed = true := by
  by_contra free
  exact lost.2 (greatest.2 graph.supports_free ⟨lost.1, by simpa using free⟩)

theorem Loses.next (lost : graph.Loses left node)
    (greatest : IsGreatest {kept | graph.Supports kept} {node | node ∈ left.nodes})
    (refers : graph.Refers node target) : graph.Loses left target := by
  refine ⟨refers.dst_mem, fun stays => ?_⟩
  have supports : graph.Supports (insert node {node | node ∈ left.nodes}) := by
    constructor
    · rintro kept (rfl | inside)
      · exact lost.1
      · exact greatest.1.live kept inside
    · rintro kept (rfl | inside) fixed
      · exact ⟨target, Or.inr stays, refers⟩
      · obtain ⟨held, heldStays, heldRefers⟩ := greatest.1.held kept inside fixed
        exact ⟨held, Or.inr heldStays, heldRefers⟩
  exact lost.2 (greatest.2 supports (Set.mem_insert node _))

/-- Objects from which one can walk on for ever hold each other up. -/
theorem supports_endless (graph : Graph) : graph.Supports
    {node | node ∈ graph.nodes ∧ ¬Acc (fun target source => graph.Refers source target) node} := by
  refine ⟨fun node member => member.1, ?_⟩
  rintro node ⟨_, endless⟩ _
  by_contra ends
  refine endless (Acc.intro node fun target refers => ?_)
  by_contra on
  exact ends ⟨target, ⟨refers.dst_mem, on⟩, refers⟩

theorem Loses.acc (lost : graph.Loses left node)
    (greatest : IsGreatest {kept | graph.Supports kept} {node | node ∈ left.nodes}) :
    Acc (fun target source => graph.Refers source target) node := by
  by_contra endless
  exact lost.2 (greatest.2 graph.supports_endless ⟨lost.1, endless⟩)

end Lost

/-- How many steps of a walk go to an object that was added later. -/
def climbs (graph : Graph) : List Node → Nat
  | first :: second :: rest =>
    (if graph.Precedes first second then 1 else 0) + graph.climbs (second :: rest)
  | _ => 0

/-- A walk along references that are not named `env`, from one lost object to the next. -/
structure Descent (graph left : Graph) (walk : List Node) : Prop where
  refers : walk.IsChain graph.Refers
  lost : ∀ node ∈ walk, graph.Loses left node

theorem Descent.singleton {graph left : Graph} {node : Node} (lost : graph.Loses left node) :
    graph.Descent left [node] :=
  ⟨List.IsChain.singleton node, by simpa using lost⟩

theorem descent_cons_cons {graph left : Graph} {node next : Node} {rest : List Node} :
    graph.Descent left (node :: next :: rest) ↔
      graph.Loses left node ∧ graph.Refers node next ∧ graph.Descent left (next :: rest) := by
  constructor
  · rintro ⟨refers, lost⟩
    rw [List.isChain_cons_cons] at refers
    rw [List.forall_mem_cons] at lost
    exact ⟨lost.1, refers.1, refers.2, lost.2⟩
  · rintro ⟨lost, refers, onward⟩
    exact ⟨List.isChain_cons_cons.mpr ⟨refers, onward.refers⟩,
      List.forall_mem_cons.mpr ⟨lost, onward.lost⟩⟩

def delays (graph left : Graph) : Set Nat :=
  {delay | ∃ walk, walk ≠ [] ∧ graph.Descent left walk ∧ graph.climbs walk = delay}

namespace Pass

variable {graph middle left : Graph} {node : Node} {rest : List Node}

theorem loses_iff (pass : graph.Pass middle) :
    middle.Loses left node ↔ graph.Loses left node ∧ node ∈ middle.nodes := by
  constructor
  · rintro ⟨there, gone⟩
    exact ⟨⟨(pass.restriction.mem_nodes.mp there).1, gone⟩, there⟩
  · rintro ⟨⟨_, gone⟩, there⟩
    exact ⟨there, gone⟩

theorem refers_iff (pass : graph.Pass middle) {src dst : Node} :
    middle.Refers src dst ↔ graph.Refers src dst ∧ src ∈ middle.nodes ∧ dst ∈ middle.nodes := by
  simpa using pass.restriction.refers_iff

/-- From an object that the pass takes out a walk never comes to one that was added later. -/
theorem climbs_of_removed (pass : graph.Pass middle) (agrees : graph.Agrees)
    (descent : graph.Descent left (node :: rest)) (taken : node ∉ middle.nodes) :
    graph.climbs (node :: rest) = 0 := by
  induction rest generalizing node with
  | nil => rfl
  | cons next rest ih =>
      obtain ⟨lost, refers, onward⟩ := descent_cons_cons.mp descent
      obtain ⟨nextTaken, before⟩ := pass.removed node next ⟨lost.1, taken⟩ refers
      simp only [climbs, if_neg (agrees.not_precedes before), ih onward nextTaken.2]

/-- The objects of a walk that the pass leaves make a walk, and at most one step to an object that was
added later is lost with the others. -/
theorem climbs_le (pass : graph.Pass middle) (agrees : graph.Agrees)
    (descent : graph.Descent left (node :: rest)) (there : node ∈ middle.nodes) :
    ∃ kept, middle.Descent left (node :: kept) ∧
      graph.climbs (node :: rest) ≤ middle.climbs (node :: kept) + 1 := by
  have first := pass.loses_iff.mpr ⟨descent.lost node (by simp), there⟩
  induction rest generalizing node with
  | nil => exact ⟨[], Descent.singleton first, Nat.zero_le _⟩
  | cons next rest ih =>
      obtain ⟨_, refers, onward⟩ := descent_cons_cons.mp descent
      by_cases nextThere : next ∈ middle.nodes
      · obtain ⟨kept, keptDescent, bound⟩ := ih onward nextThere
          (pass.loses_iff.mpr ⟨onward.lost next (by simp), nextThere⟩)
        refine ⟨next :: kept, descent_cons_cons.mpr
          ⟨first, pass.refers_iff.mpr ⟨refers, there, nextThere⟩, keptDescent⟩, ?_⟩
        simp only [climbs, pass.restriction.precedes_iff there nextThere]
        omega
      · refine ⟨[], Descent.singleton first, ?_⟩
        simp only [climbs, pass.climbs_of_removed agrees onward nextThere]
        split <;> omega

/-- A lost object that the pass leaves had to wait, so from it a walk comes to one that was added later
than the one before. -/
theorem exists_climb (pass : graph.Pass middle)
    (greatest : IsGreatest {kept | graph.Supports kept} {node | node ∈ left.nodes})
    (lost : middle.Loses left node) :
    ∃ rest, graph.Descent left (node :: rest) ∧ 1 ≤ graph.climbs (node :: rest) := by
  have fromStart := (pass.loses_iff.mp lost).1
  induction fromStart.acc greatest with
  | intro node _ ih =>
      obtain ⟨target, refers, stays | later⟩ := pass.kept node lost.1 (fromStart.fixed greatest)
      · have targetLost := fromStart.next greatest refers
        obtain ⟨rest, descent, high⟩ :=
          ih target refers (pass.loses_iff.mpr ⟨targetLost, stays⟩) targetLost
        refine ⟨target :: rest, descent_cons_cons.mpr ⟨fromStart, refers, descent⟩, ?_⟩
        simp only [climbs]
        omega
      · refine ⟨[target], descent_cons_cons.mpr
          ⟨fromStart, refers, Descent.singleton (fromStart.next greatest refers)⟩, ?_⟩
        simp [climbs, later]

theorem exists_higher (pass : graph.Pass middle)
    (greatest : IsGreatest {kept | graph.Supports kept} {node | node ∈ left.nodes})
    (descent : middle.Descent left (node :: rest)) :
    ∃ higher, graph.Descent left (node :: higher) ∧
      middle.climbs (node :: rest) + 1 ≤ graph.climbs (node :: higher) := by
  induction rest generalizing node with
  | nil => exact pass.exists_climb greatest (descent.lost node (by simp))
  | cons next rest ih =>
      obtain ⟨lost, refers, onward⟩ := descent_cons_cons.mp descent
      obtain ⟨higher, higherDescent, bound⟩ := ih onward
      obtain ⟨fromStart, there, nextThere⟩ := pass.refers_iff.mp refers
      refine ⟨next :: higher, descent_cons_cons.mpr
        ⟨(pass.loses_iff.mp lost).1, fromStart, higherDescent⟩, ?_⟩
      simp only [climbs, pass.restriction.precedes_iff there nextThere]
      omega

theorem greatest_succ (pass : graph.Pass middle) (agrees : graph.Agrees)
    (greatest : IsGreatest {kept | graph.Supports kept} {node | node ∈ left.nodes}) {delay : Nat}
    (longest : IsGreatest (middle.delays left) delay) :
    IsGreatest (graph.delays left) (delay + 1) := by
  have bound : delay + 1 ∈ upperBounds (graph.delays left) := by
    rintro _ ⟨walk, started, descent, rfl⟩
    obtain ⟨node, rest, rfl⟩ := List.exists_cons_of_ne_nil started
    by_cases there : node ∈ middle.nodes
    · obtain ⟨kept, keptDescent, close⟩ := pass.climbs_le agrees descent there
      have below := longest.2 ⟨node :: kept, by simp, keptDescent, rfl⟩
      omega
    · simp [pass.climbs_of_removed agrees descent there]
  refine ⟨?_, bound⟩
  obtain ⟨walk, started, descent, rfl⟩ := longest.1
  obtain ⟨node, rest, rfl⟩ := List.exists_cons_of_ne_nil started
  obtain ⟨higher, higherDescent, high⟩ := pass.exists_higher greatest descent
  have below := bound ⟨node :: higher, by simp, higherDescent, rfl⟩
  exact ⟨node :: higher, by simp, higherDescent, Nat.le_antisymm below high⟩

theorem greatest_zero (pass : graph.Pass middle) (agrees : graph.Agrees)
    (stays : ∀ other, ¬middle.Loses left other) (lost : graph.Loses left node) :
    IsGreatest (graph.delays left) 0 := by
  refine ⟨⟨[node], by simp, Descent.singleton lost, rfl⟩, ?_⟩
  rintro _ ⟨walk, started, descent, rfl⟩
  obtain ⟨first, rest, rfl⟩ := List.exists_cons_of_ne_nil started
  have taken : first ∉ middle.nodes := fun there =>
    stays first (pass.loses_iff.mpr ⟨descent.lost first (by simp), there⟩)
  exact (pass.climbs_of_removed agrees descent taken).le

end Pass

inductive Passes : Graph → List Sweep → Graph → Prop
  | last {graph : Graph} {after : Sweep} : graph.sweep = .ok after → after.removedNodes = 0 →
      Passes graph [after] after.graph
  | more {graph left : Graph} {after : Sweep} {sweeps : List Sweep} : graph.sweep = .ok after →
      after.removedNodes ≠ 0 → Passes after.graph sweeps left → Passes graph (after :: sweeps) left

theorem Consistent.pruneFrom_passes {graph : Graph} (consistent : graph.Consistent)
    (report : PruneReport) : ∃ total left sweeps, graph.pruneFrom report = .ok (total, left) ∧
      Passes graph sweeps left ∧ total.passes = report.passes + sweeps.length ∧
      total.removedNodes = report.removedNodes + (sweeps.map Sweep.removedNodes).sum := by
  induction report, graph using Graph.pruneFrom.induct with
  | case1 report graph error failed =>
      obtain ⟨after, _, swept, _⟩ := consistent.sweep
      rw [failed] at swept
      cases swept
  | case2 report graph after swept last =>
      refine ⟨report.next after, after.graph, [after], ?_, Passes.last swept last, rfl, ?_⟩
      · rw [pruneFrom_of_sweep swept, if_pos last]
      · simp [PruneReport.next]
  | case3 report graph after swept total again ih =>
      obtain ⟨_, peeled, ran, peeling, _⟩ := consistent.sweep
      rw [swept] at ran
      cases ran
      obtain ⟨final, left, sweeps, pruned, passes, counted, removed⟩ :=
        ih (peeling.restriction consistent).consistent
      refine ⟨final, left, after :: sweeps, ?_, Passes.more swept again passes, ?_, ?_⟩
      · rw [pruneFrom_of_sweep swept, if_neg again]
        exact pruned
      · rw [counted, List.length_cons]
        simp only [total]
        omega
      · rw [removed, List.map_cons, List.sum_cons]
        simp only [total]
        omega

namespace Passes

variable {graph left : Graph} {sweeps : List Sweep}

theorem peeling (passes : Passes graph sweeps left) (consistent : graph.Consistent) :
    ∃ peeled, Peeling graph peeled left ∧ left.Leafless ∧
      (sweeps.map Sweep.removedNodes).sum = peeled.length := by
  induction passes with
  | last swept none =>
      obtain ⟨_, peeled, ran, peeling, count, still⟩ := consistent.sweep
      rw [swept] at ran
      cases ran
      obtain ⟨same, leafless⟩ := still (List.length_eq_zero_iff.mp (count.symm.trans none))
      exact ⟨peeled, peeling, by rwa [same], by simp [count]⟩
  | more swept _ _ ih =>
      obtain ⟨_, peeled, ran, first, count, _⟩ := consistent.sweep
      rw [swept] at ran
      cases ran
      obtain ⟨rest, second, leafless, counted⟩ := ih (first.restriction consistent).consistent
      exact ⟨peeled ++ rest, first.append second, leafless, by simp [counted, count]⟩

theorem length_le (passes : Passes graph sweeps left) :
    sweeps.length ≤ (sweeps.map Sweep.removedNodes).sum + 1 ∧
      (sweeps.length = (sweeps.map Sweep.removedNodes).sum + 1 ↔
        ∀ sweep ∈ sweeps, sweep.removedNodes ≠ 0 → sweep.removedNodes = 1) := by
  induction passes with
  | last _ none => simp [none]
  | more _ some _ ih =>
      obtain ⟨bound, exactly⟩ := ih
      simp only [List.length_cons, List.map_cons, List.sum_cons, List.forall_mem_cons, ← exactly]
      omega

theorem delayed (passes : Passes graph sweeps left) (consistent : graph.Consistent) :
    ((∀ node, ¬graph.Loses left node) → sweeps.length = 1) ∧
      ∀ node, graph.Loses left node →
        ∃ delay, IsGreatest (graph.delays left) delay ∧ sweeps.length = 2 + delay := by
  induction passes with
  | last swept none =>
      obtain ⟨_, peeled, ran, _, count, still⟩ := consistent.sweep
      rw [swept] at ran
      cases ran
      obtain ⟨same, _⟩ := still (List.length_eq_zero_iff.mp (count.symm.trans none))
      refine ⟨fun _ => rfl, fun node lost => ?_⟩
      rw [same] at lost
      exact absurd lost.1 lost.2
  | @more graph left after sweeps swept some passes ih =>
      obtain ⟨total, peeling, leafless, counted⟩ := (Passes.more swept some passes).peeling consistent
      have greatest := peeling.greatest consistent leafless
      have pass := consistent.pass swept
      obtain ⟨alone, behind⟩ := ih pass.restriction.consistent
      have taken : total ≠ [] := by
        rintro rfl
        simp only [List.map_cons, List.sum_cons, List.length_nil] at counted
        omega
      constructor
      · intro none
        obtain ⟨node, lost⟩ := peeling.loses consistent taken
        exact absurd lost (none node)
      · intro node lost
        by_cases later : ∃ other, after.graph.Loses left other
        · obtain ⟨other, otherLost⟩ := later
          obtain ⟨delay, longest, length⟩ := behind other otherLost
          refine ⟨delay + 1, pass.greatest_succ consistent.toAgrees greatest longest, ?_⟩
          rw [List.length_cons, length]
          omega
        · have none := not_exists.mp later
          refine ⟨0, pass.greatest_zero consistent.toAgrees none lost, ?_⟩
          rw [List.length_cons, alone none]

end Passes

/-- A prune comes to its end, and it makes one pass if it takes nothing out. Otherwise it makes one
pass for each wait on the longest walk of lost objects, one more to take out where that walk ends, and
a last one that finds nothing. That is one pass more than there are lost objects at most, and as many
only if no pass takes out several at once. -/
theorem prune_passes {nodes : List Node} {references : List Reference} {built : Graph}
    (accepted : ofRecords nodes references = .ok built) (changes : List Change) :
    ∃ report left sweeps, (built.run changes).prune = .ok (report, left) ∧
      Passes (built.run changes) sweeps left ∧ report.passes = sweeps.length ∧
      left.nodes.length + report.removedNodes = (built.run changes).nodes.length ∧
      ((∀ node ∈ (built.run changes).nodes, node ∈ left.nodes) → report.passes = 1) ∧
      ((∃ node ∈ (built.run changes).nodes, node ∉ left.nodes) →
        ∃ delay, IsGreatest ((built.run changes).delays left) delay ∧ report.passes = 2 + delay) ∧
      report.passes ≤ report.removedNodes + 1 ∧
      (report.passes = report.removedNodes + 1 ↔
        ∀ sweep ∈ sweeps, sweep.removedNodes ≠ 0 → sweep.removedNodes = 1) := by
  have consistent := (ofRecords_holds accepted).1.run changes
  obtain ⟨report, left, sweeps, pruned, passes, counted, removed⟩ :=
    consistent.pruneFrom_passes ⟨0, 0, 0⟩
  rw [Nat.zero_add] at counted removed
  obtain ⟨peeled, peeling, _, total⟩ := passes.peeling consistent
  obtain ⟨alone, behind⟩ := passes.delayed consistent
  obtain ⟨bound, exactly⟩ := passes.length_le
  refine ⟨report, left, sweeps, pruned, passes, counted, ?_, ?_, ?_, ?_, ?_⟩
  · have fewer := peeling.nodeCount
    rw [consistent.nodeCount_eq, (peeling.restriction consistent).consistent.nodeCount_eq] at fewer
    omega
  · intro stay
    rw [counted]
    exact alone fun node lost => lost.2 (stay node lost.1)
  · rintro ⟨node, live, gone⟩
    rw [counted]
    exact behind node ⟨live, gone⟩
  · omega
  · rw [counted, removed]
    exact exactly

def chainDump : Dump :=
  ⟨[exampleNode "a" true, exampleNode "b" true, exampleNode "c" true, exampleNode "root" false],
    [⟨"a", "b", some "k"⟩, ⟨"b", "c", none⟩, ⟨"c", "root", some "env"⟩, ⟨"root", "a", some "k"⟩]⟩

theorem chainDump_refers (src dst : String) : chainDump.Refers src dst ↔
    src = "a" ∧ dst = "b" ∨ src = "b" ∧ dst = "c" ∨ src = "root" ∧ dst = "a" := by
  simp [Dump.Refers, chainDump, envName, eq_comm]

theorem chainDump_survivors : chainDump.Survivors [exampleNode "root" false] := by
  have root : ∀ node ∈ [exampleNode "root" false], node ∈ chainDump.nodes := by decide
  refine ⟨⟨⟨root, fun node inside fixed => ?_⟩, fun kept supports node inside => ?_⟩, by decide⟩
  · rw [List.mem_singleton.mp inside] at fixed
    cases fixed
  · have c : exampleNode "c" true ∉ kept :=
      supports.not_mem rfl fun target _ refers => by simp [chainDump_refers, exampleNode] at refers
    have behind (id next : String) (refers : ∀ dst, chainDump.Refers id dst → dst = next)
        (only : ∀ other ∈ chainDump.nodes, other.id = next → other = exampleNode next true)
        (gone : exampleNode next true ∉ kept) : exampleNode id true ∉ kept := by
      refine supports.not_mem rfl fun target targetInside reference => gone ?_
      rwa [← only target (supports.listed target targetInside) (refers target.id reference)]
    have b := behind "b" "c" (by simp [chainDump_refers]) (by decide) c
    have a := behind "a" "b" (by simp [chainDump_refers]) (by decide) b
    have listed := supports.listed node inside
    simp only [chainDump, List.mem_cons, List.not_mem_nil, or_false] at listed
    rcases listed with rfl | rfl | rfl | rfl
    · exact absurd inside a
    · exact absurd inside b
    · exact absurd inside c
    · exact List.mem_singleton_self _

/-- Each pass takes the end off a chain that was added from its beginning. -/
theorem prune_passes_chain :
    ∃ built report left, ofRecords chainDump.nodes chainDump.references = .ok built ∧
      (built.run []).prune = .ok (report, left) ∧ report.passes = 4 := by
  obtain ⟨built, accepted⟩ : ∃ built, ofDump chainDump = .ok built :=
    ofRecords_ok chainDump.nodes chainDump.references (by decide) (by decide)
  obtain ⟨_, live, _⟩ := ofRecords_holds accepted
  obtain ⟨report, left, sweeps, pruned, _, _, fewer, _, waits, bound, _⟩ := prune_passes accepted []
  change built.prune = .ok (report, left) at pruned
  change left.nodes.length + report.removedNodes = built.nodes.length at fewer
  obtain ⟨_, _, ran, survivors, _⟩ := ofDump_survivors accepted
  rw [pruned] at ran
  cases ran
  have kept : left.nodes = [exampleNode "root" false] := survivors.unique chainDump_survivors
  have lost (node : Node) (given : node ∈ chainDump.nodes)
      (other : node ∉ [exampleNode "root" false]) : built.Loses left node :=
    ⟨by rwa [live], by rwa [kept]⟩
  have descent : built.Descent left
      [exampleNode "a" true, exampleNode "b" true, exampleNode "c" true] := by
    refine descent_cons_cons.mpr ⟨lost _ (by decide) (by decide), ?_, descent_cons_cons.mpr
      ⟨lost _ (by decide) (by decide), ?_, Descent.singleton (lost _ (by decide) (by decide))⟩⟩
    · exact (ofDump_refers_iff accepted).mpr
        ⟨by decide, by decide, (chainDump_refers _ _).mpr (by decide)⟩
    · exact (ofDump_refers_iff accepted).mpr
        ⟨by decide, by decide, (chainDump_refers _ _).mpr (by decide)⟩
  have climbs : built.climbs
      [exampleNode "a" true, exampleNode "b" true, exampleNode "c" true] = 2 := by
    simp only [Graph.climbs, Precedes, live]
    decide
  obtain ⟨gone, gap⟩ := lost (exampleNode "a" true) (by decide) (by decide)
  obtain ⟨delay, longest, passes⟩ := waits ⟨exampleNode "a" true, gone, gap⟩
  have below := longest.2 ⟨_, by simp, descent, climbs⟩
  have removed : report.removedNodes = 3 := by
    rw [kept, live] at fewer
    simpa [chainDump, Nat.add_comm] using fewer
  refine ⟨built, report, left, accepted, pruned, ?_⟩
  omega

end Graph

end HeapGraph

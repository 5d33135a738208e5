import HeapGraph.Proofs.Graph.History

/-!
A graph without slots or indices, to compare with: the records as they were given, and the ids that
were struck off since. Whatever is asked of a graph is what the lists say, after any history.
-/

namespace HeapGraph

structure Ledger where
  nodes : List Node
  references : List Reference
  gone : List String
  deriving Repr, DecidableEq

namespace Ledger

def ofRecords (nodes : List Node) (references : List Reference) : Ledger :=
  ⟨nodes, references.eraseDups, []⟩

def keeps (ledger : Ledger) (id : String) : Bool :=
  !ledger.gone.contains id

def live (ledger : Ledger) : List Node :=
  ledger.nodes.filter fun node => ledger.keeps node.id

/-- The references that touch nothing struck off, each with its position among those given. -/
def entries (ledger : Ledger) : List (Reference × Nat) :=
  ledger.references.zipIdx.filter fun entry => ledger.keeps entry.1.src && ledger.keeps entry.1.dst

def strike (ledger : Ledger) (id : String) : Ledger :=
  { ledger with gone := id :: ledger.gone }

def node? (ledger : Ledger) (id : String) : Option Node :=
  ledger.live.find? fun node => node.id = id

def remove (ledger : Ledger) (id : String) : Option (Node × Ledger) :=
  (ledger.node? id).map fun node => (node, ledger.strike id)

def isLeaf (ledger : Ledger) (node : Node) : Bool :=
  node.fixed && ledger.entries.all fun entry => entry.1.src ≠ node.id || entry.1.name = some envName

theorem keeps_strike (ledger : Ledger) (id other : String) :
    (ledger.strike id).keeps other = (other != id && ledger.keeps other) := by
  rw [keeps, strike, List.contains_cons, Bool.not_or]
  rfl

theorem live_strike (ledger : Ledger) (id : String) :
    (ledger.strike id).live = ledger.live.filter fun node => node.id != id := by
  rw [live, live, List.filter_filter]
  exact List.filter_congr fun node _ => keeps_strike ledger id node.id

theorem entries_strike (ledger : Ledger) (id : String) :
    (ledger.strike id).entries =
      ledger.entries.filter fun entry => entry.1.src != id && entry.1.dst != id := by
  rw [entries, entries, List.filter_filter]
  refine List.filter_congr fun entry _ => ?_
  rw [keeps_strike, keeps_strike]
  ac_rfl

theorem length_live_strike {ledger : Ledger} {node : Node} (member : node ∈ ledger.live) :
    (ledger.strike node.id).live.length < ledger.live.length := by
  rw [live_strike, List.length_filter_lt_length_iff_exists]
  exact ⟨node, member, by simp⟩

def prune (ledger : Ledger) : Ledger :=
  match _first : ledger.live.find? ledger.isLeaf with
  | none => ledger
  | some node => (ledger.strike node.id).prune
termination_by ledger.live.length
decreasing_by exact length_live_strike (List.mem_of_find?_eq_some _first)

theorem prune_of_none {ledger : Ledger} (none : ledger.live.find? ledger.isLeaf = none) :
    ledger.prune = ledger := by
  rw [prune]
  split
  next => rfl
  next node first =>
    rw [none] at first
    cases first

theorem prune_of_leaf {ledger : Ledger} {node : Node}
    (first : ledger.live.find? ledger.isLeaf = some node) :
    ledger.prune = (ledger.strike node.id).prune := by
  rw [prune]
  split
  next none =>
    rw [first] at none
    cases none
  next other found =>
    rw [first] at found
    cases found
    rfl

def change (ledger : Ledger) : Change → Ledger
  | .remove id =>
    match ledger.remove id with
    | some (_, left) => left
    | none => ledger
  | .prune => ledger.prune

def run (ledger : Ledger) (changes : List Change) : Ledger :=
  changes.foldl change ledger

theorem prune_gone (ledger : Ledger) :
    ∃ gone, ledger.prune = { ledger with gone } := by
  induction ledger using Ledger.prune.induct with
  | case1 ledger none => exact ⟨ledger.gone, prune_of_none none⟩
  | case2 ledger node first ih => rwa [prune_of_leaf first]

theorem change_gone (ledger : Ledger) (change : Change) :
    ∃ gone, ledger.change change = { ledger with gone } := by
  cases change with
  | remove id =>
      cases found : ledger.node? id with
      | none => exact ⟨ledger.gone, by simp [Ledger.change, remove, found]⟩
      | some node => exact ⟨id :: ledger.gone, by simp [Ledger.change, remove, found, strike]⟩
  | prune => exact ledger.prune_gone

theorem run_gone (ledger : Ledger) (changes : List Change) :
    ∃ gone, ledger.run changes = { ledger with gone } := by
  induction changes generalizing ledger with
  | nil => exact ⟨ledger.gone, rfl⟩
  | cons change changes ih =>
      obtain ⟨first, changed⟩ := ledger.change_gone change
      obtain ⟨gone, ran⟩ := ih (ledger.change change)
      rw [changed] at ran
      exact ⟨gone, by rw [run, List.foldl_cons, changed]; exact ran⟩

end Ledger

namespace Graph

structure Represents (graph : Graph) (ledger : Ledger) : Prop where
  consistent : graph.Consistent
  nodes : graph.nodes = ledger.live
  entries : graph.entries = ledger.entries

namespace Represents

variable {graph left : Graph} {ledger : Ledger}

theorem node?_eq (represents : graph.Represents ledger) (id : String) :
    ledger.node? id = graph.node? id := by
  rw [Ledger.node?, ← represents.nodes]
  cases found : graph.node? id with
  | none =>
      rw [List.find?_eq_none]
      intro node member same
      exact represents.consistent.node?_eq_none_iff.mp found node member (of_decide_eq_true same)
  | some node =>
      obtain ⟨member, same⟩ := represents.consistent.node?_eq_some.mp found
      cases first : graph.nodes.find? fun node => node.id = id with
      | none =>
          rw [List.find?_eq_none] at first
          exact absurd (decide_eq_true same) (first node member)
      | some other =>
          have otherSame : other.id = id := by simpa using List.find?_some first
          rw [represents.consistent.node_unique (List.mem_of_find?_eq_some first) member
            (otherSame.trans same.symm)]

theorem strike (represents : graph.Represents ledger) {id : String}
    (restriction : graph.Restriction (fun node => node.id != id) left) :
    left.Represents (ledger.strike id) := by
  refine ⟨restriction.consistent, ?_, ?_⟩
  · rw [restriction.nodes, represents.nodes, Ledger.live_strike]
  · rw [Graph.entries, restriction.edges, Ledger.entries_strike, ← represents.entries,
      Graph.entries, List.filter_map]
    rfl

theorem remove (represents : graph.Represents ledger) (id : String) :
    match ledger.remove id with
    | some (node, struck) => ∃ left, graph.remove id = .ok (node, left) ∧ left.Represents struck
    | none => graph.remove id = .error (.notFound id) := by
  have consistent := represents.consistent
  rw [Ledger.remove, represents.node?_eq]
  rcases consistent.remove_cases id with
    ⟨node, member, same, left, removed, restriction⟩ | ⟨absent, failed⟩
  · rw [consistent.node?_eq_some.mpr ⟨member, same⟩]
    exact ⟨left, removed, represents.strike restriction⟩
  · rw [consistent.node?_eq_none_iff.mpr absent]
    exact failed

theorem isLeaf_eq (represents : graph.Represents ledger) {node : Node}
    (member : node ∈ graph.nodes) : ledger.isLeaf node = graph.isRemovableLeaf node.id := by
  unfold isRemovableLeaf
  rw [represents.consistent.node?_eq_some.mpr ⟨member, rfl⟩, represents.consistent.forwardOf_eq,
    Ledger.isLeaf, ← represents.entries, Graph.entries, List.all_map, List.all_filter]
  refine congrArg _ (List.all_congr rfl fun edge => ?_)
  simp [Edge.reference]

theorem peels (represents : graph.Represents ledger) :
    ∃ peeled left, Peeling graph peeled left ∧ left.Leafless ∧ left.Represents ledger.prune := by
  induction ledger using Ledger.prune.induct generalizing graph with
  | case1 ledger none =>
      refine ⟨[], graph, Peeling.done graph, ?_, by rwa [Ledger.prune_of_none none]⟩
      refine represents.consistent.leafless_of_ids fun id listed => ?_
      obtain ⟨node, member, rfl⟩ := List.mem_map.mp listed
      rw [← represents.isLeaf_eq member]
      rw [represents.nodes] at member
      exact Bool.eq_false_iff.mpr (List.find?_eq_none.mp none node member)
  | case2 ledger node first ih =>
      have member : node ∈ graph.nodes := by
        rw [represents.nodes]
        exact List.mem_of_find?_eq_some first
      have leaf : graph.isRemovableLeaf node.id = true := by
        rw [← represents.isLeaf_eq member]
        exact List.find?_some first
      obtain ⟨middle, removed, restriction⟩ := represents.consistent.remove member
      obtain ⟨peeled, left, peeling, leafless, held⟩ := ih (represents.strike restriction)
      exact ⟨node.id :: peeled, left, Peeling.step leaf removed peeling, leafless,
        by rwa [Ledger.prune_of_leaf first]⟩

theorem change (represents : graph.Represents ledger) (change : Change) :
    (graph.change change).Represents (ledger.change change) := by
  cases change with
  | remove id =>
      have removed := represents.remove id
      unfold Graph.change Ledger.change
      dsimp only
      split at removed
      next node struck _ =>
        obtain ⟨left, ran, held⟩ := removed
        rw [ran]
        exact held
      next =>
        rw [removed]
        exact represents
  | prune =>
      obtain ⟨peeled, peeling, leafless⟩ := represents.consistent.change_prune
      obtain ⟨struck, left, other, otherLeafless, held⟩ := represents.peels
      -- The graph and the ledger come to their leaves in different orders.
      rw [peeling.unique other represents.consistent leafless otherLeafless]
      exact held

theorem run (represents : graph.Represents ledger) (changes : List Change) :
    (graph.run changes).Represents (ledger.run changes) := by
  induction changes generalizing graph ledger with
  | nil => exact represents
  | cons change changes ih => exact ih (represents.change change)

end Represents

theorem ofRecords_represents {nodes : List Node} {references : List Reference} {built : Graph}
    (accepted : ofRecords nodes references = .ok built) :
    built.Represents (Ledger.ofRecords nodes references) := by
  obtain ⟨consistent, live, holds⟩ := ofRecords_holds accepted
  refine ⟨consistent, ?_, ?_⟩
  · rw [live]
    exact (List.filter_eq_self.mpr fun _ _ => rfl).symm
  · rw [holds.entries]
    exact (List.filter_eq_self.mpr fun _ _ => rfl).symm

structure Refines (graph : Graph) (ledger : Ledger) : Prop where
  nodes : graph.nodes = ledger.live
  entries : graph.entries = ledger.entries
  ends : ∀ edge ∈ graph.edges, edge.src ∈ graph.nodes ∧ edge.dst ∈ graph.nodes
  forwardOf : ∀ id, graph.forwardOf id = graph.edges.filter fun edge => edge.src.id = id
  reverseOf : ∀ id, graph.reverseOf id = graph.edges.filter fun edge => edge.dst.id = id
  node? : ∀ id node, graph.node? id = some node ↔ node ∈ graph.nodes ∧ node.id = id
  contains : ∀ id, graph.contains id = true ↔ ∃ node ∈ graph.nodes, node.id = id
  nodeCount : graph.nodeCount = graph.nodes.length
  edgeCount : graph.edgeCount = graph.edges.length
  removed : ∀ id node struck, ledger.remove id = some (node, struck) →
    graph.remove id = .ok (node, graph.change (.remove id))
  absent : ∀ id, ledger.remove id = none →
    graph.remove id = .error (.notFound id) ∧ graph.change (.remove id) = graph
  pruned : ∃ report, graph.prune = .ok (report, graph.change .prune)

theorem Represents.refines {graph : Graph} {ledger : Ledger}
    (represents : graph.Represents ledger) : graph.Refines ledger := by
  have consistent := represents.consistent
  refine ⟨represents.nodes, represents.entries,
    fun edge member => ⟨src_mem_nodes member, dst_mem_nodes member⟩, consistent.forwardOf_eq,
    consistent.reverseOf_eq, fun id node => consistent.node?_eq_some,
    fun id => consistent.contains_iff, consistent.nodeCount_eq, consistent.edgeCount_eq, ?_, ?_, ?_⟩
  · intro id node struck found
    have removed := represents.remove id
    rw [found] at removed
    obtain ⟨left, ran, _⟩ := removed
    rw [change_remove ran, ran]
  · intro id none
    have removed := represents.remove id
    rw [none] at removed
    exact ⟨removed, by simp [Graph.change, removed]⟩
  · obtain ⟨report, peeled, left, pruned, _⟩ := consistent.prune
    exact ⟨report, by simp [Graph.change, pruned]⟩

/-- Building and changing a graph is to write down and strike off in the lists: the objects are those
given that are not struck off, in their order, and the references are the first of each kind that
touch nothing struck off, each in the slot of its place among the first of each kind. -/
theorem run_refines {nodes : List Node} {references : List Reference} {built : Graph}
    (accepted : ofRecords nodes references = .ok built) (changes : List Change) :
    ∃ gone, (Ledger.ofRecords nodes references).run changes = ⟨nodes, references.eraseDups, gone⟩ ∧
      (built.run changes).Refines ⟨nodes, references.eraseDups, gone⟩ := by
  obtain ⟨gone, ran⟩ := (Ledger.ofRecords nodes references).run_gone changes
  have represents := (ofRecords_represents accepted).run changes
  rw [ran] at represents
  exact ⟨gone, ran, represents.refines⟩

theorem run_refines_names :
    ∃ built, ofRecords [exampleNode "a" true, exampleNode "b" false]
        [⟨"a", "a", none⟩, ⟨"b", "b", some ""⟩, ⟨"a", "a", none⟩, ⟨"b", "b", none⟩] = .ok built ∧
      (built.run [.remove "a", .remove "x"]).nodes = [exampleNode "b" false] ∧
      (built.run [.remove "a", .remove "x"]).entries =
        [(⟨"b", "b", some ""⟩, 1), (⟨"b", "b", none⟩, 2)] := by
  obtain ⟨built, accepted⟩ := ofRecords_ok
    [exampleNode "a" true, exampleNode "b" false]
    [⟨"a", "a", none⟩, ⟨"b", "b", some ""⟩, ⟨"a", "a", none⟩, ⟨"b", "b", none⟩]
    (by decide) (by decide)
  obtain ⟨gone, ran, refines⟩ := run_refines accepted [.remove "a", .remove "x"]
  rw [← ran] at refines
  refine ⟨built, accepted, refines.nodes.trans ?_, refines.entries.trans ?_⟩
  · decide
  · decide

end Graph

end HeapGraph

import HeapGraph.Proofs.Graph.History
import Mathlib.Order.Preorder.Finite

/-!
What a prune leaves: the greatest set of objects that hold each other up, with the references
between them. A fixed object belongs to it just when a walk along references that are not named `env`
leads from it to an object that is not fixed, or comes back to an object it has passed.
-/

namespace HeapGraph

theorem Sweep.foldlM_visit_of_leafless (sweep : Sweep) (leafless : sweep.graph.Leafless)
    (ids : List String) : ids.foldlM Sweep.visit sweep = .ok sweep := by
  induction ids with
  | nil => rfl
  | cons id ids ih =>
      rw [List.foldlM_cons, Sweep.visit_of_not_leaf (leafless id)]
      exact ih

namespace Graph

theorem prune_of_leafless {graph : Graph} (leafless : graph.Leafless) :
    graph.prune = .ok (⟨1, 0, 0⟩, graph) := by
  have swept : graph.sweep = .ok ⟨graph, 0, 0⟩ :=
    Sweep.foldlM_visit_of_leafless ⟨graph, 0, 0⟩ leafless _
  rw [prune, pruneFrom_of_sweep swept]
  rfl

theorem supports_free (graph : Graph) :
    graph.Supports {node | node ∈ graph.nodes ∧ node.fixed = false} := by
  refine ⟨fun node member => member.1, fun node member fixed => ?_⟩
  rw [member.2] at fixed
  cases fixed

/-- Pruning succeeds and leaves the greatest set of objects that hold each other up, with the
references between them, all in their order and slots; to prune again changes nothing. -/
theorem prune_greatest {nodes : List Node} {references : List Reference} {built : Graph}
    (accepted : ofRecords nodes references = .ok built) (changes : List Change) :
    ∃ report left, (built.run changes).prune = .ok (report, left) ∧
      IsGreatest {kept | (built.run changes).Supports kept} {node | node ∈ left.nodes} ∧
      left.nodes = (built.run changes).nodes.filter (fun node => node ∈ left.nodes) ∧
      left.edges = (built.run changes).edges.filter
        (fun edge => edge.src ∈ left.nodes ∧ edge.dst ∈ left.nodes) ∧
      (∀ node ∈ (built.run changes).nodes, node.fixed = false → node ∈ left.nodes) ∧
      left.prune = .ok (⟨1, 0, 0⟩, left) := by
  have consistent := (ofRecords_holds accepted).1.run changes
  obtain ⟨report, peeled, left, pruned, peeling, leafless, _⟩ := consistent.prune
  have greatest := peeling.greatest consistent leafless
  have restriction := peeling.restriction_kept consistent
  refine ⟨report, left, pruned, greatest, restriction.nodes, ?_, ?_, prune_of_leafless leafless⟩
  · simpa only [Bool.decide_and] using restriction.edges
  · intro node member free
    exact greatest.2 (supports_free _) ⟨member, free⟩

theorem prune_greatest_env :
    ∃ built report left,
      ofRecords [exampleNode "a" true, exampleNode "b" true, exampleNode "c" false]
        [⟨"a", "a", some "env"⟩, ⟨"b", "c", none⟩, ⟨"c", "a", some "k"⟩] = .ok built ∧
      (built.run [.remove "x"]).prune = .ok (report, left) ∧
      IsGreatest {kept | (built.run [.remove "x"]).Supports kept} {node | node ∈ left.nodes} := by
  obtain ⟨built, accepted⟩ := ofRecords_ok
    [exampleNode "a" true, exampleNode "b" true, exampleNode "c" false]
    [⟨"a", "a", some "env"⟩, ⟨"b", "c", none⟩, ⟨"c", "a", some "k"⟩]
    (by decide) (by decide)
  obtain ⟨report, left, pruned, greatest, _⟩ := prune_greatest accepted [.remove "x"]
  exact ⟨built, report, left, accepted, pruned, greatest⟩

/-- A walk along references that are not named `env`, from an object to one that is not fixed or
back to one that it has passed. -/
def Escapes (graph : Graph) (node : Node) : Prop :=
  ∃ (length : Nat) (walk : Nat → Node), 1 ≤ length ∧ walk 0 = node ∧
    (∀ step < length, graph.Refers (walk step) (walk (step + 1))) ∧
    ((walk length).fixed = false ∨ ∃ earlier < length, walk length = walk earlier)

/-- Among objects that hold each other up one can walk on as long as the objects met are fixed. -/
theorem Supports.walk {graph : Graph} {kept : Set Node} (supports : graph.Supports kept)
    {node : Node} (member : node ∈ kept) :
    ∃ walk : Nat → Node, walk 0 = node ∧
      ∀ step, (∀ earlier < step, (walk earlier).fixed = true) → walk step ∈ kept ∧
        ((walk step).fixed = true → graph.Refers (walk step) (walk (step + 1))) := by
  have onward (current : Node) : ∃ target, current ∈ kept → current.fixed = true →
      target ∈ kept ∧ graph.Refers current target := by
    by_cases held : current ∈ kept ∧ current.fixed = true
    · obtain ⟨target, inside, refers⟩ := supports.held current held.1 held.2
      exact ⟨target, fun _ _ => ⟨inside, refers⟩⟩
    · exact ⟨current, fun inside still => absurd ⟨inside, still⟩ held⟩
  choose next advance using onward
  have walk_succ (step : Nat) : next^[step + 1] node = next (next^[step] node) :=
    Function.iterate_succ_apply' next step node
  refine ⟨fun step => next^[step] node, rfl, fun step soFar => ?_⟩
  have stays : next^[step] node ∈ kept := by
    induction step with
    | zero => exact member
    | succ step ih =>
        rw [walk_succ]
        exact (advance _ (ih fun earlier below => soFar earlier (by omega))
          (soFar step (by omega))).1
  refine ⟨stays, fun fixed => ?_⟩
  simp only [walk_succ]
  exact (advance _ stays fixed).2

theorem Supports.escapes {graph : Graph} {kept : Set Node} (supports : graph.Supports kept)
    {node : Node} (member : node ∈ kept) (fixed : node.fixed = true) : graph.Escapes node := by
  obtain ⟨walk, rfl, onward⟩ := supports.walk member
  by_cases ends : ∃ step, (walk step).fixed = false
  · have before (earlier : Nat) (below : earlier < Nat.find ends) :
        (walk earlier).fixed = true := by
      simpa using Nat.find_min ends below
    have positive : Nat.find ends ≠ 0 := by
      intro zero
      have free := Nat.find_spec ends
      rw [zero, fixed] at free
      cases free
    refine ⟨Nat.find ends, walk, Nat.one_le_iff_ne_zero.mpr positive, rfl, ?_,
      Or.inl (Nat.find_spec ends)⟩
    intro step below
    exact (onward step fun earlier within => before earlier (by omega)).2 (before step below)
  · have allFixed (step : Nat) : (walk step).fixed = true := by
      simpa using not_exists.mp ends step
    -- The walk never leaves the finitely many objects of the graph.
    have finite : kept.Finite := graph.nodes.finite_toSet.subset supports.live
    obtain ⟨earlier, later, before, same⟩ := finite.exists_lt_map_eq_of_forall_mem
      fun step => (onward step fun other _ => allFixed other).1
    refine ⟨later, walk, by omega, rfl, ?_, Or.inr ⟨earlier, before, same.symm⟩⟩
    intro step _
    exact (onward step fun other _ => allFixed other).2 (allFixed step)

/-- An object that is not fixed, or one on a cycle, can be reached. -/
def Reaches (graph : Graph) (node : Node) : Prop :=
  ∃ target, Relation.ReflTransGen graph.Refers node target ∧
    (target.fixed = false ∨ Relation.TransGen graph.Refers target target)

theorem walk_reaches {graph : Graph} {walk : Nat → Node} {length : Nat}
    (refers : ∀ step < length, graph.Refers (walk step) (walk (step + 1))) {earlier later : Nat}
    (before : earlier ≤ later) (within : later ≤ length) :
    Relation.ReflTransGen graph.Refers (walk earlier) (walk later) := by
  induction later, before using Nat.le_induction with
  | base => exact Relation.ReflTransGen.refl
  | succ later _ ih => exact (ih (by omega)).tail (refers later within)

theorem Escapes.reaches {graph : Graph} {node : Node} (escapes : graph.Escapes node) :
    graph.Reaches node := by
  obtain ⟨length, walk, positive, rfl, refers, ending⟩ := escapes
  rcases ending with free | ⟨earlier, before, same⟩
  · exact ⟨walk length, walk_reaches refers (Nat.zero_le _) (Nat.le_refl _), Or.inl free⟩
  · have back : Relation.ReflTransGen graph.Refers (walk (earlier + 1)) (walk earlier) := by
      rw [← same]
      exact walk_reaches refers before (Nat.le_refl _)
    exact ⟨walk earlier, walk_reaches refers (Nat.zero_le _) (Nat.le_of_lt before),
      Or.inr (Relation.TransGen.head' (refers earlier before) back)⟩

theorem supports_reaches (graph : Graph) :
    graph.Supports {node | node ∈ graph.nodes ∧ graph.Reaches node} := by
  refine ⟨fun node member => member.1, ?_⟩
  rintro node ⟨_, target, path, ending⟩ fixed
  rcases path.cases_head with rfl | ⟨next, refers, rest⟩
  · rcases ending with free | cycle
    · rw [free] at fixed
      cases fixed
    · obtain ⟨next, refers, back⟩ := Relation.TransGen.head'_iff.mp cycle
      exact ⟨next, ⟨refers.dst_mem, node, back, Or.inr cycle⟩, refers⟩
  · exact ⟨next, ⟨refers.dst_mem, target, rest, ending⟩, refers⟩

theorem Holds.refers {graph : Graph} {references : List Reference} (holds : graph.Holds references)
    (consistent : graph.Consistent) {src dst : Node} (srcLive : src ∈ graph.nodes)
    (dstLive : dst ∈ graph.nodes) (name : Option String)
    (given : ⟨src.id, dst.id, name⟩ ∈ references) (counts : name ≠ some envName) :
    graph.Refers src dst := by
  obtain ⟨edge, member, same⟩ := (holds.reference_mem _).mpr given
  obtain ⟨srcSame, dstSame, rfl⟩ := Reference.mk.inj same
  exact ⟨edge, member, consistent.node_unique (src_mem_nodes member) srcLive srcSame,
    consistent.node_unique (dst_mem_nodes member) dstLive dstSame, counts⟩

/-- A fixed object survives a prune just when it escapes, which is to say that it reaches an object
that is not fixed or lies on a cycle. -/
theorem survives_iff_escapes {nodes : List Node} {references : List Reference} {built : Graph}
    (accepted : ofRecords nodes references = .ok built) (changes : List Change) :
    ∃ report left, (built.run changes).prune = .ok (report, left) ∧
      ∀ node ∈ (built.run changes).nodes, node.fixed = true →
        (node ∈ left.nodes ↔ (built.run changes).Escapes node) ∧
        (node ∈ left.nodes ↔ (built.run changes).Reaches node) := by
  have consistent := (ofRecords_holds accepted).1.run changes
  obtain ⟨report, peeled, left, pruned, peeling, leafless, _⟩ := consistent.prune
  have greatest := peeling.greatest consistent leafless
  refine ⟨report, left, pruned, fun node member fixed => ?_⟩
  have escapes (stays : node ∈ left.nodes) : (built.run changes).Escapes node :=
    greatest.1.escapes stays fixed
  have stays (reaches : (built.run changes).Reaches node) : node ∈ left.nodes :=
    greatest.2 (supports_reaches _) ⟨member, reaches⟩
  constructor
  · exact ⟨escapes, fun escapes => stays escapes.reaches⟩
  · exact ⟨fun kept => (escapes kept).reaches, stays⟩

theorem survives_iff_escapes_pair :
    ∃ built report left, ofRecords [exampleNode "a" true, exampleNode "b" true]
        [⟨"a", "b", none⟩, ⟨"b", "a", some "k"⟩] = .ok built ∧
      (built.run []).prune = .ok (report, left) ∧ exampleNode "a" true ∈ left.nodes := by
  obtain ⟨built, accepted⟩ := ofRecords_ok
    [exampleNode "a" true, exampleNode "b" true] [⟨"a", "b", none⟩, ⟨"b", "a", some "k"⟩]
    (by decide) (by decide)
  obtain ⟨report, left, pruned, survives⟩ := survives_iff_escapes accepted []
  obtain ⟨consistent, live, holds⟩ := ofRecords_holds accepted
  have first : exampleNode "a" true ∈ built.nodes := by simp [live]
  have second : exampleNode "b" true ∈ built.nodes := by simp [live]
  have there : built.Refers (exampleNode "a" true) (exampleNode "b" true) :=
    holds.refers consistent first second none (by decide) (by decide)
  have back : built.Refers (exampleNode "b" true) (exampleNode "a" true) :=
    holds.refers consistent second first (some "k") (by decide) (by decide)
  refine ⟨built, report, left, accepted, pruned, ?_⟩
  exact ((survives _ first rfl).2).mpr
    ⟨_, Relation.ReflTransGen.refl, Or.inr ((Relation.TransGen.single there).tail back)⟩

end Graph

end HeapGraph

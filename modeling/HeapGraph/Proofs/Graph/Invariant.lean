import HeapGraph.Graph.Consistency
import HeapGraph.Proofs.Graph.Index
import HeapGraph.Proofs.Graph.Tables

/-!
What the parts of a graph have to say of each other, and how its objects and references are read off
the slots.
-/

namespace HeapGraph

/-- An index files every reference under its endpoint and nothing else, and only under objects that
are there. -/
structure Graph.Files (graph : Graph) (index : Index) (endpoint : Link → Nat) : Prop where
  owned : ∀ node ∈ index, (graph.nodeAt? node).isSome
  mem_bucket : ∀ node slot, slot ∈ index.bucket node ↔
    ∃ link, graph.linkAt? slot = some link ∧ endpoint link = node

structure Graph.Agrees (graph : Graph) : Prop where
  ids : ∀ (id : String) (slot : Nat), graph.ids[id]? = some slot ↔
    ∃ node, graph.nodeAt? slot = some node ∧ node.id = id
  ends : ∀ slot link, graph.linkAt? slot = some link →
    (graph.nodeAt? link.src).isSome ∧ (graph.nodeAt? link.dst).isSome
  forward : graph.Files graph.forward Link.src
  reverse : graph.Files graph.reverse Link.dst
  keys : ∀ (link : Link) (slot : Nat), graph.keys[link]? = some slot ↔
    graph.linkAt? slot = some link
  count : graph.liveEdges = graph.links.length

/-- The parts agree, and no object has an empty bucket. -/
structure Graph.Consistent (graph : Graph) : Prop extends graph.Agrees where
  forwardTidy : graph.forward.Tidy
  reverseTidy : graph.reverse.Tidy

namespace Graph

theorem nodes_eq (graph : Graph) :
    graph.nodes = (List.range graph.nodeSlots.size).filterMap graph.nodeAt? :=
  filterMap_slots graph.nodeSlots

theorem mem_nodes {graph : Graph} {node : Node} :
    node ∈ graph.nodes ↔ ∃ slot, graph.nodeAt? slot = some node :=
  mem_filterMap_slots graph.nodeSlots node

theorem links_eq (graph : Graph) :
    graph.links = (List.range graph.edgeSlots.size).filterMap graph.linkAt? :=
  filterMap_slots graph.edgeSlots

theorem linkAt?_lt {graph : Graph} {slot : Nat} {link : Link}
    (found : graph.linkAt? slot = some link) : slot < graph.edgeSlots.size :=
  lt_size_of_join found

theorem edgeAt?_eq_some {graph : Graph} {slot : Nat} {edge : Edge} :
    graph.edgeAt? slot = some edge ↔ edge.slot = slot ∧
      ∃ link, graph.linkAt? slot = some link ∧ graph.nodeAt? link.src = some edge.src ∧
        graph.nodeAt? link.dst = some edge.dst ∧ link.name = edge.name := by
  cases edge with
  | mk place src dst name =>
      simp only [edgeAt?, Option.bind_eq_bind, Option.pure_def, Option.bind_eq_some_iff,
        Option.some.injEq, Edge.mk.injEq]
      constructor
      · rintro ⟨link, found, src, srcFound, dst, dstFound, rfl, rfl, rfl, rfl⟩
        exact ⟨rfl, link, found, srcFound, dstFound, rfl⟩
      · rintro ⟨rfl, link, found, srcFound, dstFound, rfl⟩
        exact ⟨link, found, src, srcFound, dst, dstFound, rfl, rfl, rfl, rfl⟩

theorem mem_edges {graph : Graph} {edge : Edge} :
    edge ∈ graph.edges ↔ graph.edgeAt? edge.slot = some edge := by
  unfold edges
  simp only [List.mem_filterMap, List.mem_range]
  constructor
  · rintro ⟨slot, _, found⟩
    rw [(edgeAt?_eq_some.mp found).1]
    exact found
  · intro found
    obtain ⟨_, link, linked, _⟩ := edgeAt?_eq_some.mp found
    exact ⟨edge.slot, linkAt?_lt linked, found⟩

theorem src_mem_nodes {graph : Graph} {edge : Edge} (member : edge ∈ graph.edges) :
    edge.src ∈ graph.nodes := by
  obtain ⟨_, link, _, src, _⟩ := edgeAt?_eq_some.mp (mem_edges.mp member)
  exact mem_nodes.mpr ⟨link.src, src⟩

theorem dst_mem_nodes {graph : Graph} {edge : Edge} (member : edge ∈ graph.edges) :
    edge.dst ∈ graph.nodes := by
  obtain ⟨_, link, _, _, dst, _⟩ := edgeAt?_eq_some.mp (mem_edges.mp member)
  exact mem_nodes.mpr ⟨link.dst, dst⟩

theorem Files.of_tidy {graph : Graph} {index : Index} {endpoint : Link → Nat} (tidy : index.Tidy)
    (ends : ∀ slot link, graph.linkAt? slot = some link → (graph.nodeAt? (endpoint link)).isSome)
    (mem_bucket : ∀ node slot, slot ∈ index.bucket node ↔
      ∃ link, graph.linkAt? slot = some link ∧ endpoint link = node) :
    graph.Files index endpoint := by
  refine ⟨?_, mem_bucket⟩
  intro node member
  obtain ⟨slot, filed⟩ := tidy.exists_mem member
  obtain ⟨link, linked, rfl⟩ := (mem_bucket node slot).mp filed
  exact ends slot link linked

theorem Files.index_eq {left right : Graph} {first second : Index} {endpoint : Link → Nat}
    (leftFiles : left.Files first endpoint) (rightFiles : right.Files second endpoint)
    (leftTidy : first.Tidy) (rightTidy : second.Tidy)
    (same : ∀ slot, left.linkAt? slot = right.linkAt? slot) : first = second := by
  apply leftTidy.ext rightTidy
  intro node
  apply Std.ExtTreeSet.ext_mem
  intro slot
  rw [leftFiles.mem_bucket, rightFiles.mem_bucket, same]

namespace Agrees

variable {graph : Graph}

theorem slot_unique (agrees : graph.Agrees) {first second : Nat} {left right : Node}
    (leftFound : graph.nodeAt? first = some left) (rightFound : graph.nodeAt? second = some right)
    (same : left.id = right.id) : first = second := by
  have leftId := (agrees.ids right.id first).mpr ⟨left, leftFound, same⟩
  have rightId := (agrees.ids right.id second).mpr ⟨right, rightFound, rfl⟩
  rw [leftId] at rightId
  exact Option.some.inj rightId

theorem node_unique (agrees : graph.Agrees) {left right : Node} (leftMember : left ∈ graph.nodes)
    (rightMember : right ∈ graph.nodes) (same : left.id = right.id) : left = right := by
  obtain ⟨first, leftFound⟩ := mem_nodes.mp leftMember
  obtain ⟨second, rightFound⟩ := mem_nodes.mp rightMember
  rw [agrees.slot_unique leftFound rightFound same, rightFound] at leftFound
  exact (Option.some.inj leftFound).symm

theorem edgeAt?_of_linkAt? (agrees : graph.Agrees) {slot : Nat} {link : Link}
    (linked : graph.linkAt? slot = some link) :
    ∃ edge, graph.edgeAt? slot = some edge ∧ graph.nodeAt? link.src = some edge.src ∧
      graph.nodeAt? link.dst = some edge.dst ∧ link.name = edge.name := by
  obtain ⟨srcLive, dstLive⟩ := agrees.ends slot link linked
  obtain ⟨src, srcFound⟩ := Option.isSome_iff_exists.mp srcLive
  obtain ⟨dst, dstFound⟩ := Option.isSome_iff_exists.mp dstLive
  exact ⟨⟨slot, src, dst, link.name⟩,
    edgeAt?_eq_some.mpr ⟨rfl, link, linked, srcFound, dstFound, rfl⟩, srcFound, dstFound, rfl⟩

theorem linkAt?_of_edgeAt? (agrees : graph.Agrees) {slot : Nat} {edge : Edge} {link : Link}
    (found : graph.edgeAt? slot = some edge) (src : graph.nodeAt? link.src = some edge.src)
    (dst : graph.nodeAt? link.dst = some edge.dst) (name : link.name = edge.name) :
    graph.linkAt? slot = some link := by
  obtain ⟨_, held, linked, heldSrc, heldDst, heldName⟩ := edgeAt?_eq_some.mp found
  have same : held = link := by
    cases held
    cases link
    rw [Link.mk.injEq]
    exact ⟨agrees.slot_unique heldSrc src rfl, agrees.slot_unique heldDst dst rfl,
      heldName.trans name.symm⟩
  rw [linked, same]

theorem edgeAt?_isSome (agrees : graph.Agrees) (slot : Nat) :
    (graph.edgeAt? slot).isSome = (graph.linkAt? slot).isSome := by
  cases linked : graph.linkAt? slot with
  | none => simp [edgeAt?, linked]
  | some link =>
      obtain ⟨edge, found, _⟩ := agrees.edgeAt?_of_linkAt? linked
      simp [found]

end Agrees

theorem Consistent.ext {left right : Graph} (leftConsistent : left.Consistent)
    (rightConsistent : right.Consistent) (nodes : left.nodeSlots = right.nodeSlots)
    (edges : left.edgeSlots = right.edgeSlots) : left = right := by
  have nodeAt (slot : Nat) : left.nodeAt? slot = right.nodeAt? slot := by
    rw [nodeAt?, nodeAt?, nodes]
  have linkAt (slot : Nat) : left.linkAt? slot = right.linkAt? slot := by
    rw [linkAt?, linkAt?, edges]
  have ids : left.ids = right.ids :=
    table_ext leftConsistent.ids fun id slot => by rw [rightConsistent.ids, nodeAt]
  have keys : left.keys = right.keys :=
    table_ext leftConsistent.keys fun link slot => by rw [rightConsistent.keys, linkAt]
  have forward : left.forward = right.forward :=
    leftConsistent.forward.index_eq rightConsistent.forward leftConsistent.forwardTidy
      rightConsistent.forwardTidy linkAt
  have reverse : left.reverse = right.reverse :=
    leftConsistent.reverse.index_eq rightConsistent.reverse leftConsistent.reverseTidy
      rightConsistent.reverseTidy linkAt
  have count : left.liveEdges = right.liveEdges := by
    rw [leftConsistent.count, rightConsistent.count, links, links, edges]
  cases left
  cases right
  simp_all only

theorem consistent_empty : empty.Consistent := by
  have unlinked (slot : Nat) : empty.linkAt? slot = none := by simp [linkAt?, empty]
  have unoccupied (slot : Nat) : empty.nodeAt? slot = none := by simp [nodeAt?, empty]
  have files (endpoint : Link → Nat) : empty.Files ∅ endpoint := by
    constructor
    · simp
    · simp [Index.bucket_empty, unlinked]
  refine ⟨⟨?_, ?_, files _, files _, ?_, rfl⟩, Index.tidy_empty, Index.tidy_empty⟩
  · simp only [unoccupied]
    simp [empty]
  · simp [unlinked]
  · simp only [unlinked]
    simp [empty]

end Graph

end HeapGraph

import HeapGraph.Dump.Basic
import HeapGraph.Graph.Link

/-!
The graph of a dump: its objects, and the references between them filed by either endpoint.

Objects and references keep the slot that they were given when the graph was built. A slot that is
given up stays empty, so that what is left keeps its order.
-/

namespace HeapGraph

inductive Discord where
  | idCount (slots ids : Nat)
  | foreignSlot (id : String)
  | noSlot (id : String)
  | removedEndpoint (slot : Nat)
  | notForward (slot : Nat)
  | notReverse (slot : Nat)
  | notKeyed (slot : Nat)
  | edgeCount (live counted keys : Nat)
  | removedOwner (index : String)
  | deadEdge (index : String) (slot : Nat)
  | wrongOwner (index : String) (slot : Nat)
  | entryCount (index : String) (entries live : Nat)
  deriving Repr, DecidableEq

def Discord.message : Discord → String
  | idCount slots ids => slots.repr ++ " live slots but " ++ ids.repr ++ " ids"
  | foreignSlot id => "id " ++ id ++ " maps to a dead or foreign slot"
  | noSlot id => "node " ++ id ++ " has no slot"
  | removedEndpoint slot => "edge " ++ slot.repr ++ " references a removed node"
  | notForward slot => "edge " ++ slot.repr ++ " missing from forward index"
  | notReverse slot => "edge " ++ slot.repr ++ " missing from reverse index"
  | notKeyed slot => "edge " ++ slot.repr ++ " missing from key table"
  | edgeCount live counted keys =>
    live.repr ++ " live edges, counter " ++ counted.repr ++ ", " ++ keys.repr ++ " keys"
  | removedOwner index => index ++ " index keeps a bucket for a removed node"
  | deadEdge index slot => index ++ " index lists dead edge " ++ slot.repr
  | wrongOwner index slot => index ++ " index files edge " ++ slot.repr ++ " under the wrong node"
  | entryCount index entries live =>
    index ++ " index holds " ++ entries.repr ++ " entries for " ++ live.repr ++ " edges"

inductive GraphError where
  | malformed (src dst missing : String)
  | duplicate (id : String)
  | notFound (id : String)
  | inconsistent (discord : Discord)
  deriving Repr, DecidableEq

def GraphError.message : GraphError → String
  | malformed src dst missing =>
    "edge " ++ src ++ " -> " ++ dst ++ " references unknown node " ++ missing
  | duplicate id => "node " ++ id ++ " appears more than once"
  | notFound id => "node " ++ id ++ " not found"
  | inconsistent discord => "graph indices out of sync: " ++ discord.message

structure Graph where
  nodeSlots : Array (Option Node)
  /-- The slot of each object. -/
  ids : Std.ExtTreeMap String Nat
  edgeSlots : Array (Option Link)
  /-- The slot of each reference. -/
  keys : Std.ExtTreeMap Link Nat
  /-- References by their source. -/
  forward : Index
  /-- References by their destination. -/
  reverse : Index
  /-- How many references there are. -/
  liveEdges : Nat

structure Edge where
  slot : Nat
  src : Node
  dst : Node
  name : Option String
  deriving Repr, DecidableEq

namespace Graph

def empty : Graph :=
  ⟨#[], ∅, #[], ∅, ∅, ∅, 0⟩

def addNode (graph : Graph) (node : Node) : Except GraphError Graph :=
  if graph.ids.contains node.id then .error (.duplicate node.id)
  else .ok { graph with
    ids := graph.ids.insert node.id graph.nodeSlots.size
    nodeSlots := graph.nodeSlots.push (some node) }

def resolve (graph : Graph) (reference : Reference) (id : String) : Except GraphError Nat :=
  match graph.ids[id]? with
  | some slot => .ok slot
  | none => .error (.malformed reference.src reference.dst id)

def addLink (graph : Graph) (link : Link) : Graph :=
  let slot := graph.edgeSlots.size
  { graph with
    forward := graph.forward.file link.src slot
    reverse := graph.reverse.file link.dst slot
    keys := graph.keys.insert link slot
    edgeSlots := graph.edgeSlots.push (some link)
    liveEdges := graph.liveEdges + 1 }

def addReference (graph : Graph) (reference : Reference) : Except GraphError Graph :=
  match graph.resolve reference reference.src with
  | .error error => .error error
  | .ok src =>
    match graph.resolve reference reference.dst with
    | .error error => .error error
    | .ok dst =>
      let link : Link := ⟨src, dst, reference.name⟩
      .ok (if graph.keys.contains link then graph else graph.addLink link)

/-- The graph of objects and references. No two objects may have the same id, and no reference may
name an object that is not there. -/
def ofRecords (nodes : List Node) (references : List Reference) : Except GraphError Graph :=
  match nodes.foldlM addNode empty with
  | .error error => .error error
  | .ok graph => references.foldlM addReference graph

def ofDump (dump : Dump) : Except GraphError Graph :=
  ofRecords dump.nodes dump.references

def nodeAt? (graph : Graph) (slot : Nat) : Option Node :=
  graph.nodeSlots[slot]?.join

def node? (graph : Graph) (id : String) : Option Node :=
  graph.ids[id]?.bind graph.nodeAt?

def contains (graph : Graph) (id : String) : Bool :=
  graph.ids.contains id

def nodes (graph : Graph) : List Node :=
  graph.nodeSlots.toList.filterMap fun slot => slot

def linkAt? (graph : Graph) (slot : Nat) : Option Link :=
  graph.edgeSlots[slot]?.join

def edgeAt? (graph : Graph) (slot : Nat) : Option Edge := do
  let link ← graph.linkAt? slot
  let src ← graph.nodeAt? link.src
  let dst ← graph.nodeAt? link.dst
  return ⟨slot, src, dst, link.name⟩

def edges (graph : Graph) : List Edge :=
  (List.range graph.edgeSlots.size).filterMap graph.edgeAt?

def filed (graph : Graph) (index : Index) (id : String) : List Edge :=
  match graph.ids[id]? with
  | none => []
  | some slot => (index.bucket slot).toList.filterMap graph.edgeAt?

def forwardOf (graph : Graph) (id : String) : List Edge :=
  graph.filed graph.forward id

def reverseOf (graph : Graph) (id : String) : List Edge :=
  graph.filed graph.reverse id

def nodeCount (graph : Graph) : Nat :=
  graph.ids.size

def edgeCount (graph : Graph) : Nat :=
  graph.liveEdges

/-- Gives up the slot of a reference, and takes the reference out of the buckets of both endpoints. A
slot that is empty already stays so. -/
def detach (graph : Graph) (slot : Nat) : Graph :=
  match graph.linkAt? slot with
  | none => graph
  | some link =>
    { graph with
      edgeSlots := graph.edgeSlots.setIfInBounds slot none
      forward := graph.forward.unfile link.src slot
      reverse := graph.reverse.unfile link.dst slot
      keys := graph.keys.erase link
      liveEdges := graph.liveEdges - 1 }

/-- The slots of the references at a node: those that end there, then those that start there. One
that does both is met twice. -/
def incident (graph : Graph) (slot : Nat) : List Nat :=
  (graph.reverse.bucket slot).toList ++ (graph.forward.bucket slot).toList

def detachAll (graph : Graph) (slot : Nat) : Graph :=
  (graph.incident slot).foldl detach { graph with
    forward := graph.forward.erase slot
    reverse := graph.reverse.erase slot }

def remove (graph : Graph) (id : String) : Except GraphError (Node × Graph) :=
  match graph.ids[id]? with
  | none => .error (.notFound id)
  | some slot =>
    let detached := graph.detachAll slot
    match detached.nodeAt? slot with
    | none => .error (.inconsistent (.noSlot id))
    | some node =>
      .ok (node, { detached with
        ids := detached.ids.erase id
        nodeSlots := detached.nodeSlots.setIfInBounds slot none })

@[simp] theorem detach_ids (graph : Graph) (slot : Nat) : (graph.detach slot).ids = graph.ids := by
  unfold detach
  split <;> rfl

theorem foldl_detach_ids (slots : List Nat) (graph : Graph) :
    (slots.foldl detach graph).ids = graph.ids := by
  induction slots generalizing graph with
  | nil => rfl
  | cons slot slots ih => simp [ih]

@[simp] theorem detachAll_ids (graph : Graph) (slot : Nat) :
    (graph.detachAll slot).ids = graph.ids := by
  simp [detachAll, foldl_detach_ids]

theorem remove_ids {graph left : Graph} {id : String} {node : Node}
    (removed : graph.remove id = .ok (node, left)) :
    id ∈ graph.ids ∧ left.ids = graph.ids.erase id := by
  unfold remove at removed
  split at removed
  · cases removed
  · rename_i slot found
    dsimp only at removed
    split at removed
    · cases removed
    · cases removed
      refine ⟨?_, by simp⟩
      rw [Std.ExtTreeMap.mem_iff_isSome_getElem?, found]
      rfl

theorem nodeCount_remove {graph left : Graph} {id : String} {node : Node}
    (removed : graph.remove id = .ok (node, left)) :
    left.nodeCount + 1 = graph.nodeCount := by
  obtain ⟨member, ids⟩ := remove_ids removed
  have nonempty : 0 < graph.ids.size := by
    apply Nat.pos_of_ne_zero
    intro none
    rw [← Std.ExtTreeMap.eq_empty_iff_size_eq_zero] at none
    simp [none] at member
  unfold nodeCount
  rw [ids, Std.ExtTreeMap.size_erase, if_pos (Std.ExtTreeMap.contains_iff_mem.2 member)]
  omega

end Graph

end HeapGraph

import HeapGraph.Graph.Basic

/-!
The check that the objects, the references, the key table and both indices of a graph agree.
-/

namespace HeapGraph.Graph

/-- The objects that are there and the ids that are there have to be equally many, and each id has to
lead to the object that bears it. -/
def idDiscord? (graph : Graph) : Option Discord :=
  if graph.nodes.length != graph.ids.size then
    some (.idCount graph.nodes.length graph.ids.size)
  else graph.ids.toList.findSome? fun entry =>
    if (graph.nodeAt? entry.2).any (·.id = entry.1) then none else some (.foreignSlot entry.1)

def linkDiscord? (graph : Graph) (slot : Nat) (link : Link) : Option Discord :=
  if (graph.nodeAt? link.src).isNone || (graph.nodeAt? link.dst).isNone then
    some (.removedEndpoint slot)
  else if !(graph.forward.bucket link.src).contains slot then some (.notForward slot)
  else if !(graph.reverse.bucket link.dst).contains slot then some (.notReverse slot)
  else if graph.keys[link]? != some slot then some (.notKeyed slot)
  else none

def slotDiscord? (graph : Graph) (slot : Nat) : Option Discord :=
  (graph.linkAt? slot).bind (graph.linkDiscord? slot)

def edgeDiscord? (graph : Graph) : Option Discord :=
  (List.range graph.edgeSlots.size).findSome? graph.slotDiscord?

def links (graph : Graph) : List Link :=
  graph.edgeSlots.toList.filterMap fun slot => slot

def countDiscord? (graph : Graph) : Option Discord :=
  let live := graph.links.length
  if live != graph.liveEdges || live != graph.keys.size then
    some (.edgeCount live graph.liveEdges graph.keys.size)
  else none

/-- A bucket needs an object that it belongs to, and may hold only references at that object. -/
def bucketDiscord? (graph : Graph) (name : String) (endpoint : Link → Nat) (node : Nat)
    (bucket : Bucket) : Option Discord :=
  if (graph.nodeAt? node).isNone then some (.removedOwner name)
  else bucket.toList.findSome? fun slot =>
    match graph.linkAt? slot with
    | none => some (.deadEdge name slot)
    | some link => if endpoint link = node then none else some (.wrongOwner name slot)

/-- The buckets of an index have to be in order, and together hold as many references as there
are. -/
def indexDiscord? (graph : Graph) (name : String) (index : Index) (endpoint : Link → Nat) :
    Option Discord :=
  (index.toList.findSome? fun entry => graph.bucketDiscord? name endpoint entry.1 entry.2).or
    (let entries := index.toList.foldl (fun count entry => count + entry.2.size) 0
     if entries != graph.links.length then some (.entryCount name entries graph.links.length)
     else none)

def discord? (graph : Graph) : Option Discord :=
  graph.idDiscord?.or
    (graph.edgeDiscord?.or
      (graph.countDiscord?.or
        ((graph.indexDiscord? "forward" graph.forward Link.src).or
          (graph.indexDiscord? "reverse" graph.reverse Link.dst))))

def check (graph : Graph) : Except GraphError Unit :=
  match graph.discord? with
  | none => .ok ()
  | some discord => .error (.inconsistent discord)

end HeapGraph.Graph

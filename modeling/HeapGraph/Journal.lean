import HeapGraph.Showing

/-!
What there is to log while a dump is shown: one event after the other, each from the part of the
program that comes to it. Nothing else depends on them.
-/

namespace HeapGraph

inductive Level where
  | trace
  | debug
  | info
  deriving Repr, DecidableEq

structure Event where
  level : Level
  /-- The part of the program that the event is from. -/
  target : String
  message : String
  deriving Repr, DecidableEq

namespace Event

def counts (nodes references : Nat) : String :=
  nodes.repr ++ " nodes, " ++ references.repr ++ " edges"

def loading (path : String) : Event :=
  ⟨.info, "heapgraph::view_cli", "Loading " ++ path⟩

def decoded (dump : Dump) : Event :=
  ⟨.debug, "heap::load", "Decoded heap dump: " ++ counts dump.nodes.length dump.references.length⟩

/-- References that repeat others have come to nothing in the graph. -/
def built (dump : Dump) (graph : Graph) : List Event :=
  let duplicates := dump.references.length - graph.edgeCount
  let collapsed : Event :=
    ⟨.debug, "refgraph::graph", "Collapsed " ++ duplicates.repr ++ " duplicate edges"⟩
  (if duplicates = 0 then [] else [collapsed]) ++
    [⟨.debug, "refgraph::graph", "Built graph: " ++ counts graph.nodeCount graph.edgeCount⟩]

def removed (id : String) : Event :=
  ⟨.trace, "refgraph::graph", "Removed node " ++ id⟩

def pass (number removedNodes : Nat) : Event :=
  ⟨.debug, "refgraph::prune",
    "Prune pass " ++ number.repr ++ ": removed " ++ removedNodes.repr ++ " nodes"⟩

def pruned (graph : Graph) (report : PruneReport) : Event :=
  ⟨.info, "heapgraph::view_cli", "Pruned " ++ report.removedNodes.repr ++ " of " ++
    graph.nodeCount.repr ++ " nodes and " ++ report.removedEdges.repr ++ " of " ++
    graph.edgeCount.repr ++ " edges in " ++ report.passes.repr ++ " passes"⟩

def rendered (graph : Graph) : Event :=
  ⟨.debug, "refgraph::dot", "Rendered " ++ counts graph.nodeCount graph.edgeCount⟩

def wrote (path : String) : Event :=
  ⟨.debug, "refgraph::view", "Wrote " ++ path⟩

def opened (drawing : String) : Event :=
  ⟨.info, "heapgraph::view_cli", "Opened " ++ drawing⟩

end Event

def Sweep.takenOut (sweep : Sweep) : List String → List String
  | [] => []
  | id :: ids =>
    match sweep.visit id with
    | .error _ => []
    | .ok next =>
      if sweep.graph.isRemovableLeaf id then id :: next.takenOut ids else next.takenOut ids

namespace Graph

def sweepEvents (graph : Graph) : List Event :=
  (Sweep.takenOut ⟨graph, 0, 0⟩ (graph.nodes.map Node.id)).map .removed

def pruneEvents (passes : Nat) (graph : Graph) : List Event :=
  match _swept : graph.sweep with
  | .error _ => graph.sweepEvents
  | .ok after =>
    graph.sweepEvents ++ .pass (passes + 1) after.removedNodes ::
      if after.removedNodes = 0 then [] else pruneEvents (passes + 1) after.graph
termination_by graph.nodeCount
decreasing_by
  have fewer := sweep_count _swept
  omega

end Graph

def depictEvents (graph : Graph) : List Event :=
  graph.pruneEvents 0 ++
    match graph.prune with
    | .error _ => []
    | .ok (report, left) => .pruned graph report ::
      match Diagram.render Diagram.defaultCap left with
      | .error _ => []
      | .ok _ => [.rendered left]

def drawEvents (host : Host) (path : String) : List Event :=
  .loading path ::
    match host.read path with
    | .error _ => []
    | .ok document =>
      match Dump.read .whole document with
      | .error _ => []
      | .ok dump => .decoded dump ::
        match Graph.ofDump dump with
        | .error _ => []
        | .ok graph => Event.built dump graph ++ depictEvents graph

def showEvents (settings : Settings) (path : String) (host : Host) : List Event :=
  drawEvents host path ++
    match draw host path with
    | .error _ => []
    | .ok drawn =>
      match settings.writeSource (artifactStem drawn.document) drawn.diagram host with
      | (.error _, _) => []
      | (.ok written, _) => .wrote written ::
        match (showDump settings path host).1 with
        | .error _ => []
        | .ok drawing => [.opened drawing]

end HeapGraph

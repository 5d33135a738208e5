import HeapGraph.Diagram.Attributes
import HeapGraph.Diagram.Escape

/-!
Graphs as DOT documents: a line for each object, then a line for each reference.
-/

namespace HeapGraph.Diagram

def graphName : String := "object-references"

def header : List String := [
  "// Object References",
  "digraph \"" ++ graphName ++ "\" \x7b",
  "    graph [bgcolor=white rankdir=LR]",
  "    node [shape=box]"]

def footer : List String := ["\x7d"]

def NodeAttributes.line (node : NodeAttributes) : String :=
  "    \"" ++ escape node.id ++ "\" [label=\"" ++ escape node.label ++ "\" color=" ++
    node.border.name ++ " style=filled fillcolor=" ++ node.palette.fill ++ " fontcolor=" ++
    node.palette.font ++ "]"

def EdgeAttributes.line (edge : EdgeAttributes) : String :=
  "    \"" ++ escape edge.src ++ "\" -> \"" ++ escape edge.dst ++ "\" [label=\"" ++
    escape edge.label ++ "\" constraint=" ++ (if edge.constraint then "true" else "false") ++ "]"

def nodeAttributes (cap : Nat) (graph : Graph) : Except RenderError (List NodeAttributes) :=
  graph.nodes.mapM (NodeAttributes.ofNode cap)

def edgeAttributes (graph : Graph) : List EdgeAttributes :=
  graph.edges.map .ofEdge

def lines (nodes : List NodeAttributes) (edges : List EdgeAttributes) : List String :=
  header ++ nodes.map NodeAttributes.line ++ edges.map EdgeAttributes.line ++ footer

def unlines (lines : List String) : String :=
  String.join (lines.map (· ++ "\n"))

def render (cap : Nat) (graph : Graph) : Except RenderError String :=
  match nodeAttributes cap graph with
  | .error error => .error error
  | .ok nodes => .ok (unlines (lines nodes (edgeAttributes graph)))

end HeapGraph.Diagram

import HeapGraph.Proofs.Diagram.Document
import HeapGraph.Proofs.Dump.Recognition
import HeapGraph.Proofs.Dump.Support
import HeapGraph.Proofs.Host.FileTree
import HeapGraph.Showing

/-!
From the file of a dump to its diagram. What survives the prune is drawn in the order of the records,
and the first object of an unknown color among that keeps the diagram from being drawn. Of what does
not survive nothing shows, neither its color nor the references at it.
-/

namespace HeapGraph

namespace Diagram

def markTags : List String := ["white", "gray", "black"]

theorem ofNode_of_marked {node : Node} (recognized : node.color.recognized = node.color)
    (marked : node.color.tag ∈ markTags) (cap : Nat) :
    ∃ attributes, NodeAttributes.ofNode cap node = .ok attributes := by
  cases color : node.color with
  | white => exact ⟨_, by rw [NodeAttributes.ofNode, Palette.ofNode, color]⟩
  | gray => exact ⟨_, by rw [NodeAttributes.ofNode, Palette.ofNode, color]⟩
  | black => exact ⟨_, by rw [NodeAttributes.ofNode, Palette.ofNode, color]⟩
  | other tag =>
      rw [color] at recognized marked
      simp only [markTags, Color.tag, List.mem_cons, List.not_mem_nil, or_false] at marked
      rcases marked with rfl | rfl | rfl <;> cases recognized

theorem ofNode_of_unmarked {node : Node} (unmarked : node.color.tag ∉ markTags) (cap : Nat) :
    NodeAttributes.ofNode cap node = .error (.unknownColor node.id node.color.tag) := by
  cases color : node.color with
  | white => simp [color, Color.tag, markTags] at unmarked
  | gray => simp [color, Color.tag, markTags] at unmarked
  | black => simp [color, Color.tag, markTags] at unmarked
  | other tag => rw [NodeAttributes.ofNode, Palette.ofNode, color]; rfl

/-- The line of an object, letter by letter. -/
def nodeSpelled (node : Node) : String :=
  let border :=
    if node.synthesized then if node.fixed then "yellow" else "purple"
    else if node.fixed then "green" else "red"
  let fill := if node.color.tag = "gray" then "lightgray" else node.color.tag
  let font := if node.color.tag = "black" then "white" else "black"
  "    \"" ++ escape node.id ++ "\" [label=\"" ++
    escape ("(" ++ node.kind ++ ") " ++ displayName 100 node.name ++ " (" ++
      node.memcat.toNat.repr ++ ")") ++
    "\" color=" ++ border ++ " style=filled fillcolor=" ++ fill ++ " fontcolor=" ++ font ++ "]"

/-- The line of a reference, letter by letter. -/
def edgeSpelled (reference : Reference) : String :=
  "    \"" ++ escape reference.src ++ "\" -> \"" ++ escape reference.dst ++ "\" [label=\"" ++
    escape (reference.name.getD "") ++ "\" constraint=" ++
    (if reference.name = some "env" then "false" else "true") ++ "]"

def spelled (nodes : List Node) (references : List Reference) : List String :=
  ["// Object References",
    "digraph \"object-references\" \x7b",
    "    graph [bgcolor=white rankdir=LR]",
    "    node [shape=box]"] ++
  nodes.map nodeSpelled ++ references.map edgeSpelled ++ ["\x7d"]

theorem NodeAttributes.line_of_node {node : Node} {attributes : NodeAttributes}
    (shown : NodeAttributes.ofNode 100 node = .ok attributes) :
    attributes.line = nodeSpelled node := by
  have border : (Border.ofNode node).name =
      if node.synthesized then if node.fixed then "yellow" else "purple"
      else if node.fixed then "green" else "red" := by
    unfold Border.ofNode
    cases node.synthesized <;> cases node.fixed <;> rfl
  unfold NodeAttributes.ofNode Palette.ofNode at shown
  unfold NodeAttributes.line nodeSpelled
  cases color : node.color with
  | other tag => rw [color] at shown; cases shown
  | _ =>
      rw [color] at shown
      cases shown
      simp [border, Diagram.label, Color.tag]

theorem map_line_of_nodes {nodes : List Node} {attributes : List NodeAttributes}
    (made : List.Forall₂ (fun node shown => NodeAttributes.ofNode 100 node = .ok shown)
      nodes attributes) : attributes.map NodeAttributes.line = nodes.map nodeSpelled := by
  induction made with
  | nil => rfl
  | cons first _ ih => rw [List.map_cons, List.map_cons, NodeAttributes.line_of_node first, ih]

theorem EdgeAttributes.line_ofReference (reference : Reference) :
    (EdgeAttributes.ofReference reference).line = edgeSpelled reference := by
  by_cases env : reference.name = some "env" <;>
    simp [line, edgeSpelled, ofReference, envName, env]

theorem lines_eq_spelled {nodes : List Node} {attributes : List NodeAttributes}
    (made : List.Forall₂ (fun node shown => NodeAttributes.ofNode 100 node = .ok shown)
      nodes attributes) (references : List Reference) :
    lines attributes (references.map .ofReference) = spelled nodes references := by
  simp only [lines, spelled, map_line_of_nodes made, List.map_map, Function.comp_def,
    EdgeAttributes.line_ofReference]
  rfl

def sketch (nodes : List Node) (references : List Reference) : Except RenderError String :=
  match nodes.mapM (NodeAttributes.ofNode defaultCap) with
  | .error error => .error error
  | .ok attributes => .ok (unlines (lines attributes (references.map .ofReference)))

theorem render_eq_sketch (graph : Graph) :
    render defaultCap graph = sketch graph.nodes (graph.edges.map Edge.reference) := by
  rw [sketch, List.map_map]
  rfl

section Sketches

variable {nodes : List Node} {references : List Reference}

theorem marked_of_sketch {text : String} (drawn : sketch nodes references = .ok text) :
    ∀ node ∈ nodes, node.color.tag ∈ markTags := by
  intro node listed
  by_contra unmarked
  unfold sketch at drawn
  split at drawn
  · cases drawn
  · rename_i attributes shown
    obtain ⟨found, succeeds⟩ := mapM_ok_of_mem shown listed
    rw [ofNode_of_unmarked unmarked] at succeeds
    cases succeeds

theorem sketch_ok {text : String} (drawn : sketch nodes references = .ok text) :
    text.toList.splitOn '\n' = (spelled nodes references).map String.toList ++ [[]] := by
  unfold sketch at drawn
  split at drawn
  · cases drawn
  · rename_i attributes shown
    cases drawn
    have made := mapM_ok_forall₂ shown
    rw [splitOn_unlines (oneLine_of_mem_lines (plain_of_forall₂ made)), lines_eq_spelled made]

theorem sketch_error (recognized : ∀ node ∈ nodes, node.color.recognized = node.color)
    {error : RenderError} (failed : sketch nodes references = .error error) :
    ∃ before node after, nodes = before ++ node :: after ∧
      (∀ earlier ∈ before, earlier.color.tag ∈ markTags) ∧ node.color.tag ∉ markTags ∧
      error = .unknownColor node.id node.color.tag := by
  unfold sketch at failed
  split at failed
  · rename_i found stopped
    cases failed
    obtain ⟨before, node, after, rfl, fine, fails⟩ := mapM_error_first stopped
    have unmarked : node.color.tag ∉ markTags := by
      intro marked
      obtain ⟨shown, succeeds⟩ := ofNode_of_marked (recognized node (by simp)) marked defaultCap
      rw [succeeds] at fails
      cases fails
    refine ⟨before, node, after, rfl, fun earlier listed => ?_, unmarked, ?_⟩
    · by_contra other
      obtain ⟨shown, succeeds⟩ := fine earlier listed
      rw [ofNode_of_unmarked other] at succeeds
      cases succeeds
    · rw [ofNode_of_unmarked unmarked] at fails
      exact (Except.error.inj fails).symm
  · cases failed

theorem sketch_ok_iff (recognized : ∀ node ∈ nodes, node.color.recognized = node.color) :
    (∃ text, sketch nodes references = .ok text) ↔ ∀ node ∈ nodes, node.color.tag ∈ markTags := by
  constructor
  · rintro ⟨text, drawn⟩
    exact marked_of_sketch drawn
  · intro marked
    cases outcome : sketch nodes references with
    | ok text => exact ⟨text, rfl⟩
    | error error =>
        obtain ⟨before, node, after, rfl, _, unmarked, _⟩ := sketch_error recognized outcome
        exact absurd (marked node (by simp)) unmarked

end Sketches

end Diagram

/-- What comes of a dump in a file that is drawn so, or cannot be drawn so. -/
def DrawnDump.outcome (path : String) (document : List UInt8) :
    Except Diagram.RenderError String → Except ShowError DrawnDump
  | .error error => .error (.undrawable path error)
  | .ok diagram => .ok ⟨document, diagram⟩

theorem draw_of_accepted {host : Host} {path : String} {document : List UInt8} {dump : Dump}
    (readable : host.read path = .ok document) (decoded : Dump.decode .whole document = .ok dump)
    {graph : Graph} (accepted : Graph.ofDump dump = .ok graph) :
    ∃ kept, dump.Survivors kept ∧ draw host path =
      DrawnDump.outcome path document (Diagram.sketch kept (dump.between kept)) := by
  obtain ⟨report, left, pruned, survivors, references⟩ := Graph.ofDump_survivors accepted
  refine ⟨left.nodes, survivors, ?_⟩
  unfold draw
  simp only [readable, decode_eq_ok_iff_read.mp decoded, accepted, pruned,
    Diagram.render_eq_sketch, references]
  cases Diagram.sketch left.nodes (dump.between left.nodes) <;> rfl

theorem DrawnDump.outcome_eq_ok {path : String} {document : List UInt8}
    {diagram : Except Diagram.RenderError String} {drawn : DrawnDump} :
    outcome path document diagram = .ok drawn ↔
      drawn.document = document ∧ diagram = .ok drawn.diagram := by
  cases diagram with
  | error error => simp [outcome]
  | ok text =>
      cases drawn
      simp [outcome, eq_comm]

theorem DrawnDump.outcome_eq_error {path : String} {document : List UInt8}
    {diagram : Except Diagram.RenderError String} {error : ShowError} :
    outcome path document diagram = .error error ↔
      ∃ cause, diagram = .error cause ∧ error = .undrawable path cause := by
  cases diagram with
  | error cause => simp [outcome, eq_comm]
  | ok text => simp [outcome]

/-- The survivors of a dump in a file are drawn, each with a line, and so are the references between
them, unless a color is unknown. Nothing else of the dump makes a difference. -/
theorem draw_survivors {host : Host} {path : String} {document : List UInt8} {dump : Dump}
    (readable : host.read path = .ok document) (decoded : Dump.decode .whole document = .ok dump)
    (distinct : (dump.nodes.map Node.id).Nodup)
    (known : ∀ reference ∈ dump.references,
      reference.src ∈ dump.nodes.map Node.id ∧ reference.dst ∈ dump.nodes.map Node.id) :
    ∃ kept : List Node, dump.Survivors kept ∧
      ((∃ drawn, draw host path = .ok drawn) ↔
        ∀ node ∈ kept, node.color.tag ∈ ["white", "gray", "black"]) ∧
      (∀ drawn, draw host path = .ok drawn → drawn.document = document ∧
        drawn.diagram.toList.splitOn '\n' =
          (Diagram.spelled kept (dump.between kept)).map String.toList ++ [[]]) ∧
      (∀ error, draw host path = .error error → ∃ before node after,
        kept = before ++ node :: after ∧
        (∀ earlier ∈ before, earlier.color.tag ∈ ["white", "gray", "black"]) ∧
        node.color.tag ∉ ["white", "gray", "black"] ∧
        error = .undrawable path (.unknownColor node.id node.color.tag)) ∧
      ∃ diagram, draw host path = DrawnDump.outcome path document diagram ∧
        ∀ {otherHost : Host} {otherPath : String} {otherDocument : List UInt8} {other : Dump},
          otherHost.read otherPath = .ok otherDocument →
          Dump.decode .whole otherDocument = .ok other → dump.AlikeOn kept other →
          (∀ reference ∈ other.references,
            reference.src ∈ dump.nodes.map Node.id ∧ reference.dst ∈ dump.nodes.map Node.id) →
          draw otherHost otherPath = DrawnDump.outcome otherPath otherDocument diagram := by
  obtain ⟨graph, accepted⟩ : ∃ graph, Graph.ofDump dump = .ok graph :=
    Graph.ofRecords_ok dump.nodes dump.references distinct known
  obtain ⟨kept, survivors, drawing⟩ := draw_of_accepted readable decoded accepted
  have recognized (node : Node) (inside : node ∈ kept) : node.color.recognized = node.color :=
    Dump.color_recognized decoded node (survivors.listed inside)
  refine ⟨kept, survivors, ?_, ?_, ?_, _, drawing, ?_⟩
  · rw [← Diagram.markTags, ← Diagram.sketch_ok_iff recognized, drawing]
    simp only [DrawnDump.outcome_eq_ok]
    constructor
    · rintro ⟨drawn, _, text⟩
      exact ⟨_, text⟩
    · rintro ⟨text, drawn⟩
      exact ⟨⟨document, text⟩, rfl, drawn⟩
  · intro drawn succeeds
    rw [drawing, DrawnDump.outcome_eq_ok] at succeeds
    exact ⟨succeeds.1, Diagram.sketch_ok succeeds.2⟩
  · intro error fails
    rw [drawing, DrawnDump.outcome_eq_error] at fails
    obtain ⟨cause, stopped, rfl⟩ := fails
    obtain ⟨before, node, after, split, marked, unmarked, rfl⟩ :=
      Diagram.sketch_error recognized stopped
    exact ⟨before, node, after, split, marked, unmarked, rfl⟩
  · intro otherHost otherPath otherDocument other otherReadable otherDecoded alike otherKnown
    rw [← alike.ids] at otherKnown
    obtain ⟨otherGraph, otherAccepted⟩ : ∃ graph, Graph.ofDump other = .ok graph :=
      Graph.ofRecords_ok other.nodes other.references (alike.ids ▸ distinct) otherKnown
    obtain ⟨others, otherSurvivors, otherDrawing⟩ :=
      draw_of_accepted otherReadable otherDecoded otherAccepted
    obtain rfl := (alike.survivors distinct survivors).unique otherSurvivors
    rw [otherDrawing, alike.between]

/-- The object `a` is pruned unless a reference holds it up. -/
def partlyHeld (color : Color) (references : List Reference) : Dump :=
  ⟨[{ Graph.exampleNode "a" true with color }, Graph.exampleNode "b" false,
    Graph.exampleNode "c" true], references⟩

def partlyKept : List Node :=
  [Graph.exampleNode "b" false, Graph.exampleNode "c" true]

def purpleDump : Dump :=
  partlyHeld (.other "purple") [⟨"c", "b", none⟩, ⟨"b", "a", some "k"⟩, ⟨"a", "b", some "env"⟩,
    ⟨"c", "b", none⟩]

def grayDump : Dump :=
  partlyHeld .gray [⟨"c", "a", none⟩, ⟨"c", "b", none⟩]

def partlyHost : Host where
  files := (FileTree.empty.put ["purple"] (.file (Text.utf8 purpleDump.write) false)).put
    ["gray"] (.file (Text.utf8 grayDump.write) false)
  directory := []
  programs := ∅
  loader _ := .error .badFormat
  launches := []

theorem purpleDump_survivors : purpleDump.Survivors partlyKept := by
  have pruned {kept : Set Node} (supports : purpleDump.Supports kept) :
      { Graph.exampleNode "a" true with color := .other "purple" } ∉ kept := by
    refine supports.not_mem rfl fun target _ refers => ?_
    simp [Dump.Refers, purpleDump, partlyHeld, Graph.exampleNode, envName] at refers
  refine ⟨⟨⟨fun node inside => List.mem_cons_of_mem _ inside, ?_⟩, ?_⟩, by decide⟩
  · intro node inside fixed
    rcases List.mem_pair.mp inside with rfl | rfl
    · cases fixed
    · exact ⟨Graph.exampleNode "b" false, by simp [partlyKept], ⟨"c", "b", none⟩, by decide⟩
  · intro kept supports node inside
    refine (List.mem_cons.mp (supports.listed node inside)).resolve_left ?_
    rintro rfl
    exact pruned supports inside

theorem purpleDump_alikeOn : purpleDump.AlikeOn partlyKept grayDump := by
  refine ⟨⟨fun _ => .gray, by decide⟩, by decide, ?_⟩
  rintro node member outside dst ⟨reference, given, same, _⟩
  have pruned : ∀ node ∈ purpleDump.nodes, node ∉ partlyKept → node.id = "a" := by decide
  have apart : ∀ reference ∈ grayDump.references, reference.src ≠ "a" := by decide
  exact absurd (same.trans (pruned node member outside)) (apart reference given)

theorem draw_survivors_partly :
    ∃ diagram, draw partlyHost "purple" = .ok ⟨Text.utf8 purpleDump.write, diagram⟩ ∧
      draw partlyHost "gray" = .ok ⟨Text.utf8 grayDump.write, diagram⟩ := by
  have stands : partlyHost.files.entry? ["purple"] =
      some (.file (Text.utf8 purpleDump.write) false) := by
    simp [partlyHost, FileTree.entry?_put]
  have otherStands : partlyHost.files.entry? ["gray"] =
      some (.file (Text.utf8 grayDump.write) false) := by
    simp [partlyHost, FileTree.entry?_put]
  have readable : partlyHost.read "purple" = .ok (Text.utf8 purpleDump.write) :=
    FileTree.read_of_name rfl (by decide) (by decide) stands
  have otherReadable : partlyHost.read "gray" = .ok (Text.utf8 grayDump.write) :=
    FileTree.read_of_name rfl (by decide) (by decide) otherStands
  obtain ⟨kept, survivors, succeeds, _, _, diagram, drawing, alike⟩ :=
    draw_survivors readable (decode_of_recognized rfl) (by decide) (by decide)
  have same : kept = partlyKept := survivors.unique purpleDump_survivors
  subst same
  obtain ⟨drawn, succeeded⟩ := succeeds.mpr (by decide)
  rw [drawing, DrawnDump.outcome_eq_ok] at succeeded
  refine ⟨drawn.diagram, by rw [drawing, succeeded.2]; rfl, ?_⟩
  rw [alike otherReadable (decode_of_recognized rfl) purpleDump_alikeOn (by decide), succeeded.2]
  rfl

end HeapGraph

import HeapGraph.Graph.Prune
import HeapGraph.Text.Offset
import HeapGraph.Text.Quoted

/-!
How objects and references are shown: labels, border colors, and fill and text colors.
-/

namespace HeapGraph.Diagram

inductive Border where
  | red
  | purple
  | yellow
  | green
  deriving Repr, DecidableEq

def Border.ofNode (node : Node) : Border :=
  match node.synthesized, node.fixed with
  | true, true => yellow
  | true, false => purple
  | false, true => green
  | false, false => red

def Border.name : Border → String
  | red => "red"
  | purple => "purple"
  | yellow => "yellow"
  | green => "green"

structure Palette where
  fill : String
  font : String
  deriving Repr, DecidableEq

inductive RenderError where
  | unknownColor (id tag : String)
  deriving Repr, DecidableEq

def RenderError.message : RenderError → String
  | unknownColor id tag => "node " ++ id ++ " has unknown color tag " ++ Text.quote tag

def Palette.ofNode (node : Node) : Except RenderError Palette :=
  match node.color with
  | .white => .ok ⟨"white", "black"⟩
  | .gray => .ok ⟨"lightgray", "black"⟩
  | .black => .ok ⟨"black", "white"⟩
  | .other tag => .error (.unknownColor node.id tag)

/-- The last `@` of a name, with the number of bytes before it. -/
def lastAt? (name : String) : Option (Nat × Char) :=
  (Text.charOffsets name).reverse.find? fun entry => entry.2 = '@'

theorem mem_of_lastAt? {name : String} {entry : Nat × Char} (found : lastAt? name = some entry) :
    entry ∈ Text.charOffsets name :=
  List.mem_reverse.mp (List.mem_of_find?_eq_some found)

def baseName (name : String) : String :=
  match found : lastAt? name with
  | some entry => Text.firstBytes name entry.1 (Text.isBoundary_of_mem (mem_of_lastAt? found))
  | none => name

def ellipsis : String := "..."

/-- At most `cap` characters, with an ellipsis where some were cut off. The cut is made in the bytes,
where the first character too many begins. -/
def capped (cap : Nat) (name : String) : String :=
  match found : (Text.charOffsets name)[cap]? with
  | some entry =>
    Text.firstBytes name entry.1 (Text.isBoundary_of_mem (List.mem_of_getElem? found)) ++ ellipsis
  | none => name

def displayName (cap : Nat) (name : String) : String :=
  capped cap (baseName name)

def defaultCap : Nat := 100

def label (cap : Nat) (node : Node) : String :=
  "(" ++ node.kind ++ ") " ++ displayName cap node.name ++ " (" ++ node.memcat.toNat.repr ++ ")"

structure NodeAttributes where
  id : String
  label : String
  border : Border
  palette : Palette
  deriving Repr, DecidableEq

def NodeAttributes.ofNode (cap : Nat) (node : Node) : Except RenderError NodeAttributes :=
  match Palette.ofNode node with
  | .error error => .error error
  | .ok palette => .ok ⟨node.id, Diagram.label cap node, .ofNode node, palette⟩

structure EdgeAttributes where
  src : String
  dst : String
  label : String
  /-- Whether the reference takes part in the ranking: an environment ranks above the closures that
  refer to it. -/
  constraint : Bool
  deriving Repr, DecidableEq

def EdgeAttributes.ofEdge (edge : Edge) : EdgeAttributes :=
  ⟨edge.src.id, edge.dst.id, edge.name.getD "", edge.name != some envName⟩

end HeapGraph.Diagram

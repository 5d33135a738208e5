import HeapGraph.Path
import HeapGraph.Text.Blank
import HeapGraph.Text.Lowercase

/-!
Where diagrams are written, in which format, and which programs draw and open them.
-/

namespace HeapGraph

structure Settings where
  outputDir : String
  /-- The format that Graphviz is asked for. -/
  format : String
  /-- The program that opens a drawn diagram. Without one the desktop chooses. -/
  viewer : Option String
  /-- The program that draws. -/
  dot : String
  deriving Repr, DecidableEq

structure Surroundings where
  lookup : String → Option String
  /-- The home directory of the account. -/
  accountHome : Option String

namespace Surroundings

def home? (surroundings : Surroundings) : Option String :=
  match surroundings.lookup "HOME" with
  | some home => if home.isEmpty then surroundings.accountHome else some home
  | none => surroundings.accountHome

/-- The directory for what can be made again. A relative one is not taken from the variable. -/
def cacheDir? (surroundings : Surroundings) : Option String :=
  match (surroundings.lookup "XDG_CACHE_HOME").filter Path.isAbsolute with
  | some directory => some directory
  | none => surroundings.home?.map (Path.join · ".cache")

def temporaryDir (surroundings : Surroundings) : String :=
  (surroundings.lookup "TMPDIR").getD "/tmp"

def outputDir (surroundings : Surroundings) : String :=
  Path.join (surroundings.cacheDir?.getD surroundings.temporaryDir) "heapgraph"

end Surroundings

namespace Settings

def default (surroundings : Surroundings) : Settings :=
  ⟨surroundings.outputDir, "pdf", none, "dot"⟩

/-- The settings that variables ask for. One that is blank asks for nothing. -/
def ofLookup (surroundings : Surroundings) (lookup : String → Option String) : Settings :=
  let given (name : String) := (lookup name).filter (!Text.isBlank ·)
  let default := default surroundings
  { outputDir := (given "HEAPGRAPH_OUTPUT_DIR").getD default.outputDir
    format := ((given "HEAPGRAPH_FORMAT").map (Text.lowercase ∘ Text.trim)).getD default.format
    viewer := given "HEAPGRAPH_VIEWER" <|> default.viewer
    dot := (given "HEAPGRAPH_DOT").getD default.dot }

def ofSurroundings (surroundings : Surroundings) : Settings :=
  ofLookup surroundings surroundings.lookup

end Settings

end HeapGraph

import HeapGraph.Dump.Load
import HeapGraph.Graph.Prune
import HeapGraph.Viewing

/-!
From the path of a dump to its diagram on the screen.
-/

namespace HeapGraph

inductive ShowError where
  | unreadable (path : String) (cause : OsError)
  | undecodable (path : String) (mistake : Json.Mistake)
  | inconsistent (path : String) (error : GraphError)
  | unprunable (error : GraphError)
  | undrawable (path : String) (error : Diagram.RenderError)
  | unviewable (path : String) (error : ViewError)

namespace ShowError

def messages : ShowError → List String
  | unreadable path cause => (LoadError.unreadable path cause).messages
  | undecodable path mistake => ("failed to decode " ++ path) :: (LoadError.invalid mistake).messages
  | inconsistent path error => ["inconsistent heap graph in " ++ path, error.message]
  | unprunable error => [error.message]
  | undrawable path error => ["failed to render " ++ path, error.message]
  | unviewable path error => ("failed to display graph for " ++ path) :: error.messages

def message (error : ShowError) : String :=
  ": ".intercalate error.messages

end ShowError

/-- The bytes of a dump, and the diagram of what is left of it once it is pruned. -/
structure DrawnDump where
  document : List UInt8
  diagram : String

def draw (host : Host) (path : String) : Except ShowError DrawnDump :=
  match host.read path with
  | .error cause => .error (.unreadable path cause)
  | .ok document =>
    match Dump.read .whole document with
    | .error mistake => .error (.undecodable path mistake)
    | .ok dump =>
      match Graph.ofDump dump with
      | .error error => .error (.inconsistent path error)
      | .ok graph =>
        match graph.prune with
        | .error error => .error (.unprunable error)
        | .ok (_, pruned) =>
          match Diagram.render Diagram.defaultCap pruned with
          | .error error => .error (.undrawable path error)
          | .ok diagram => .ok ⟨document, diagram⟩

def showDump (settings : Settings) (path : String) (host : Host) :
    Except (Halt ShowError) String × Host :=
  match draw host path with
  | .error error => (.error (.failed error), host)
  | .ok drawn =>
    match settings.view drawn.document drawn.diagram host with
    | (.error halt, host) => (.error (halt.map (.unviewable path)), host)
    | (.ok drawing, host) => (.ok drawing, host)

end HeapGraph

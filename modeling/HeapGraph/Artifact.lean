import HeapGraph.Diagram.Render
import HeapGraph.Digest
import HeapGraph.Text.Hex

/-!
Names of the files that a document is shown in.
-/

namespace HeapGraph

def artifactStem (document : List UInt8) : String :=
  Diagram.graphName ++ "-" ++
    String.ofList (((Digest.sha256 document).take 8).flatMap Text.hexByte)

end HeapGraph

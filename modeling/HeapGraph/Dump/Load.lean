import HeapGraph.Dump.Reader
import HeapGraph.Host.Basic

/-!
Dumps loaded from files.
-/

namespace HeapGraph

inductive LoadError where
  | unreadable (path : String) (cause : OsError)
  | invalid (mistake : Json.Mistake)

namespace LoadError

def messages : LoadError → List String
  | unreadable path cause => ["failed to read " ++ path ++ ": " ++ cause.message, cause.message]
  | invalid mistake => ["invalid heap graph document: " ++ mistake.message, mistake.message]

def message (error : LoadError) : String :=
  error.messages.headD ""

end LoadError

def Host.document (host : Host) (path : String) : Except LoadError (List UInt8) :=
  (host.read path).mapError (.unreadable path)

namespace Dump

def decode (feed : Json.Feed) (document : List UInt8) : Except LoadError Dump :=
  (read feed document).mapError .invalid

def parse (text : String) : Except LoadError Dump :=
  decode .whole (Text.utf8 text)

def load (host : Host) (path : String) : Except LoadError Dump :=
  match host.document path with
  | .error error => .error error
  | .ok document => decode .whole document

end Dump

end HeapGraph

import HeapGraph.Artifact
import HeapGraph.Host.Basic
import HeapGraph.Settings

/-!
Showing a diagram: its source is written, Graphviz draws it, and a viewer opens the drawing.
-/

namespace HeapGraph

/-- What ends an action early: a failure that is answered, or a panic, which ends the program with it. -/
inductive Halt (ε : Type) where
  | failed (error : ε)
  | panicked (message : String)
  deriving Repr, DecidableEq

def Halt.map {ε ε' : Type} (tell : ε → ε') : Halt ε → Halt ε'
  | failed error => failed (tell error)
  | panicked message => panicked message

inductive ViewError where
  | unwritten (path : String) (cause : OsError)
  | unlaunched (program : String) (cause : OsError)
  | undrawn (ending : Ending) (stderr : String)
  deriving Repr, DecidableEq

namespace ViewError

def messages : ViewError → List String
  | unwritten path cause => ["failed to write " ++ path ++ ": " ++ cause.message, cause.message]
  | unlaunched program cause =>
    ["failed to launch " ++ program ++ ": " ++ cause.message, cause.message]
  | undrawn ending stderr => ["graphviz exited with " ++ ending.describe ++ ": " ++ stderr]

def message (error : ViewError) : String :=
  error.messages.headD ""

end ViewError

namespace Settings

def sourcePath (settings : Settings) (stem : String) : String :=
  Path.join settings.outputDir (stem ++ ".gv")

def drawingPath (settings : Settings) (source : String) : Except String String :=
  Path.withExtension source settings.format

def writeSource (settings : Settings) (stem source : String) (host : Host) :
    Except ViewError String × Host :=
  match host.makeDirectories settings.outputDir with
  | (.error cause, host) => (.error (.unwritten settings.outputDir cause), host)
  | (.ok _, host) =>
    let path := settings.sourcePath stem
    match host.write path (Text.utf8 source) with
    | .error cause => (.error (.unwritten path cause), host)
    | .ok host => (.ok path, host)

def drawingArguments (settings : Settings) (source drawing : String) : List String :=
  ["-T" ++ settings.format, "-o", drawing, source]

def renderFile (settings : Settings) (source : String) (host : Host) :
    Except (Halt ViewError) String × Host :=
  match settings.drawingPath source with
  | .error message => (.error (.panicked message), host)
  | .ok drawing =>
    match host.launch settings.dot (settings.drawingArguments source drawing) with
    | (.error cause, host) => (.error (.failed (.unlaunched settings.dot cause)), host)
    | (.ok outcome, host) =>
      if outcome.ending.succeeded then (.ok drawing, host)
      else
        let stderr := Text.trim (Text.ofUtf8Lossy outcome.stderr)
        (.error (.failed (.undrawn outcome.ending stderr)), host)

def opener (settings : Settings) : String :=
  settings.viewer.getD "xdg-open"

/-- How messages show the name of a program that opens drawings. A name with a NUL cannot be shown. -/
def describeOpener (name : String) : String :=
  if name.toList.contains '\x00' then Text.quote "<string-with-nul>"
  else Text.quoteWith ['"', '\''] name

/-- Opens a file. How the viewer fares afterwards does not matter. -/
def openFile (settings : Settings) (path : String) (host : Host) : Except ViewError Unit × Host :=
  match host.launch settings.opener [path] with
  | (.error cause, host) => (.error (.unlaunched (describeOpener settings.opener) cause), host)
  | (.ok _, host) => (.ok (), host)

def view (settings : Settings) (document : List UInt8) (source : String) (host : Host) :
    Except (Halt ViewError) String × Host :=
  match settings.writeSource (artifactStem document) source host with
  | (.error error, host) => (.error (.failed error), host)
  | (.ok written, host) =>
    match settings.renderFile written host with
    | (.error halt, host) => (.error halt, host)
    | (.ok drawing, host) =>
      match settings.openFile drawing host with
      | (.error error, host) => (.error (.failed error), host)
      | (.ok _, host) => (.ok drawing, host)

end Settings

end HeapGraph

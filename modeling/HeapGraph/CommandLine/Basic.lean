import HeapGraph.CommandLine.Console
import HeapGraph.CommandLine.Request
import HeapGraph.Text.Terminal

/-!
The program as it is called: what it writes, how it ends, and what it does to its host.
-/

namespace HeapGraph.CommandLine

def programName : String := "heapgraph"

def versionText : String :=
  programName ++ " 0.1.0\n"

def usage (flag : Option Flag) : String :=
  "Usage: " ++ programName ++ (flag.elim "" (" " ++ ·.written)) ++ " <PATH>"

def helpText : String :=
  "Render a heap graph dump, pruned down to fixed-object cycles\n\n" ++ usage none ++ "\n\n" ++
    "Arguments:\n  <PATH>  Heap graph JSON document\n\n" ++
    "Options:\n  -h, --help     Print help\n  -V, --version  Print version\n"

def Flag.answer : Flag → String
  | help => helpText
  | version => versionText

def Hint.flag? : Hint → Option Flag
  | .similar flag => some flag
  | .asValue => none

def Hint.tip (argument : String) : Hint → String
  | .asValue => "  tip: to pass '" ++ argument ++ "' as a value, use '-- " ++ argument ++ "'\n\n"
  | .similar flag => "  tip: a similar argument exists: '" ++ flag.written ++ "'\n\n"

def pointer : String :=
  "For more information, try '--help'.\n"

def UsageError.describe : UsageError → String
  | missingPath =>
    "the following required arguments were not provided:\n  <PATH>\n\n" ++ usage none
  | emptyPath => "a value is required for '<PATH>' but none was supplied"
  | unexpectedArgument argument hint =>
    "unexpected argument '" ++ argument ++ "' found\n\n" ++ hint.elim "" (·.tip argument) ++
      usage (hint.bind Hint.flag?)
  | unexpectedValue value flag =>
    "unexpected value '" ++ value ++ "' for '" ++ flag.written ++
      "' found; no more were expected\n\n" ++ usage (some flag)

def UsageError.message (error : UsageError) : String :=
  Text.shown ("error: " ++ error.describe ++ "\n\n" ++ pointer)

/-- A text with something in front of its first line, and something else in front of the others. -/
def indent (first others text : String) : String :=
  first ++ String.join (text.toList.map fun c => if c = '\n' then "\n" ++ others else c.toString)

def numbered (number : Nat) : String :=
  let digits := number.repr
  String.ofList (List.replicate (5 - digits.length) ' ') ++ digits ++ ": "

def causeLines : List String → List String
  | [] => []
  | [cause] => [indent "    " "    " cause]
  | causes => (causes.zipIdx).map fun (cause, number) => indent (numbered number) "       " cause

def report (messages : List String) (backtrace : String) : String :=
  "Error: " ++ messages.headD "" ++
    (if messages.tail = [] then "" else "\n\nCaused by:") ++
    String.join ((causeLines messages.tail).map ("\n" ++ ·)) ++ backtrace ++ "\n"

structure Answer where
  exit : Nat
  stdout : String
  stderr : String
  host : Host

def run (console : Console) (arguments : List String) (surroundings : Surroundings) (host : Host) :
    Answer :=
  match Request.ofArguments arguments with
  | .error error => ⟨2, "", error.message, host⟩
  | .ok (.tell flag) => ⟨0, flag.answer, "", host⟩
  | .ok (.display path) =>
    let settings := Settings.ofSurroundings surroundings
    let lookup := surroundings.lookup
    let log := console.log lookup (showEvents settings path host)
    match showDump settings path host with
    | (.ok _, host) => ⟨0, "", log, host⟩
    | (.error (.failed error), host) =>
      ⟨1, "", log ++ report error.messages (console.backtrace lookup), host⟩
    | (.error (.panicked message), host) =>
      ⟨101, "", log ++ console.panicReport lookup message, host⟩

end HeapGraph.CommandLine

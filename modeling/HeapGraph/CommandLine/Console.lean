import HeapGraph.Journal

/-!
What a call writes to standard error besides its own messages, and what that depends on.
-/

namespace HeapGraph.CommandLine

/-- How the program is fitted with a log, with backtraces and with reports of panics. The variables
of the environment decide what comes of them. -/
structure Console where
  /-- The events that a text lets through, if it is a filter. -/
  filter? : String → Option (Event → Bool)
  off : filter? "off" = some fun _ => false
  /-- The line of an event, with so many lines before it. It tells the time. -/
  line : Nat → Event → String
  /-- What stands behind the causes of a failure. -/
  backtrace : (String → Option String) → String
  /-- How a panic with some message is reported. -/
  panicReport : (String → Option String) → String → String

namespace Console

variable (console : Console) (lookup : String → Option String)

def filter : Event → Bool :=
  (((lookup "RUST_LOG").bind console.filter?).or (console.filter? "info")).getD fun _ => false

def log (events : List Event) : String :=
  String.join ((events.filter (console.filter lookup)).zipIdx.map fun (event, before) =>
    console.line before event)

end Console

def levelFilters : List (String × (Event → Bool)) := [
  ("off", fun _ => false),
  ("error", fun _ => false),
  ("warn", fun _ => false),
  ("info", fun event => event.level = .info),
  ("debug", fun event => event.level ≠ .trace),
  ("trace", fun _ => true)]

def Level.label : Level → String
  | .trace => "TRACE"
  | .debug => "DEBUG"
  | .info => " INFO"

/-- A console that filters by levels alone. All its lines tell the same time, and nothing is traced
back. -/
def Console.plain (time : String) : Console where
  filter? text := levelFilters.lookup text
  off := rfl
  line _ event :=
    time ++ " " ++ Level.label event.level ++ " " ++ event.target ++ ": " ++ event.message ++ "\n"
  backtrace _ := ""
  panicReport _ message := "thread 'main' panicked:\n" ++ message ++ "\n"

end HeapGraph.CommandLine

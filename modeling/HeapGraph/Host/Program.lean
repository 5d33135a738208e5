import HeapGraph.Text.Utf8

/-!
What programs do when they run: they write to standard error, and then they end.
-/

namespace HeapGraph

inductive Ending where
  | exited (code : Nat)
  | killed (signal : Nat)
  deriving Repr, DecidableEq

def signalNames : List String := [
  "SIGHUP", "SIGINT", "SIGQUIT", "SIGILL", "SIGTRAP", "SIGABRT", "SIGBUS", "SIGFPE", "SIGKILL",
  "SIGUSR1", "SIGSEGV", "SIGUSR2", "SIGPIPE", "SIGALRM", "SIGTERM", "SIGSTKFLT", "SIGCHLD",
  "SIGCONT", "SIGSTOP", "SIGTSTP", "SIGTTIN", "SIGTTOU", "SIGURG", "SIGXCPU", "SIGXFSZ",
  "SIGVTALRM", "SIGPROF", "SIGWINCH", "SIGIO", "SIGPWR", "SIGSYS"]

def signalName (signal : Nat) : String :=
  if signal = 0 then "" else signalNames.getD (signal - 1) ""

namespace Ending

def describe : Ending → String
  | exited code => "exit status: " ++ code.repr
  | killed signal => "signal: " ++ signal.repr ++ " (" ++ signalName signal ++ ")"

def succeeded (ending : Ending) : Bool :=
  ending = .exited 0

end Ending

structure Program where
  /-- Whether it writes its arguments before anything else. -/
  showsArguments : Bool
  stderr : List UInt8
  ending : Ending
  deriving Repr, DecidableEq

structure Outcome where
  ending : Ending
  stderr : List UInt8
  deriving Repr, DecidableEq

def Program.run (program : Program) (arguments : List String) : Outcome :=
  let shown := if program.showsArguments
    then arguments.flatMap fun argument => Text.utf8 ("[" ++ argument ++ "]") else []
  ⟨program.ending, shown ++ program.stderr⟩

end HeapGraph

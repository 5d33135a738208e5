import HeapGraph.Host.FileTree
import HeapGraph.Host.Program

/-!
The machine that diagrams are shown on: its files, its programs, and what has been launched there.
-/

namespace HeapGraph

structure Launch where
  program : String
  arguments : List String
  deriving Repr, DecidableEq

structure Host where
  files : FileTree
  /-- The place of the current directory. -/
  directory : List String
  /-- What is found by its name alone, with the reason for which it cannot be run if it cannot. -/
  programs : Std.ExtTreeMap String (Except OsError Program)
  /-- What an executable file with some content is when it is run. -/
  loader : List UInt8 → Except OsError Program
  /-- The programs launched so far, in this order. -/
  launches : List Launch

namespace Host

def read (host : Host) (path : String) : Except OsError (List UInt8) :=
  host.files.read host.directory path

def makeDirectories (host : Host) (path : String) : Except OsError Unit × Host :=
  let made := host.files.makeDirectories host.directory path
  (made.1, { host with files := made.2 })

def write (host : Host) (path : String) (content : List UInt8) : Except OsError Host :=
  match host.files.write host.directory path content with
  | .error error => .error error
  | .ok files => .ok { host with files }

/-- The program that a name stands for. A name with a slash is the path of a file, and two names without
one stand for directories. -/
def program? (host : Host) (name : String) : Except OsError Program :=
  if name.toList.contains '/' then
    match FileTree.routeOf name with
    | .error error => .error error
    | .ok route =>
      match host.files.locate host.directory route with
      | .error error => .error error
      | .ok place =>
        match host.files.entry? place with
        | some (.file content true) => host.loader content
        | _ => .error .denied
  else if name = "." || name = ".." then .error .denied
  else if FileTree.longestName < name.utf8ByteSize then .error .nameTooLong
  else host.programs[name]?.getD (.error .noEntry)

def launch (host : Host) (name : String) (arguments : List String) : Except OsError Outcome × Host :=
  if (name :: arguments).any (·.toList.contains '\x00') then (.error .nulInCommand, host)
  else
    match host.program? name with
    | .error error => (.error error, host)
    | .ok program =>
      (.ok (program.run arguments), { host with launches := host.launches ++ [⟨name, arguments⟩] })

end Host

end HeapGraph

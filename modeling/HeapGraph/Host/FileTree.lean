import HeapGraph.Host.OsError
import HeapGraph.Host.Route
import Std.Data.ExtTreeMap

/-!
Files and directories by their place, which is the list of names that lead there from the root.
-/

namespace HeapGraph

inductive Entry where
  | file (content : List UInt8) (executable : Bool)
  | directory
  deriving Repr, DecidableEq

structure FileTree where
  entries : Std.ExtTreeMap (List String) Entry

namespace FileTree

def empty : FileTree := ⟨∅⟩

def entry? (tree : FileTree) (place : List String) : Option Entry :=
  if place = [] then some .directory else tree.entries[place]?

def put (tree : FileTree) (place : List String) (entry : Entry) : FileTree :=
  ⟨tree.entries.insert place entry⟩

def longestName : Nat := 255

def longestPath : Nat := 4095

def step (tree : FileTree) (place : List String) (name : String) : Except OsError (List String) :=
  if tree.entry? place != some .directory then .error .notDirectory
  else if name = "." then .ok place
  else if name = ".." then .ok place.dropLast
  else if longestName < name.utf8ByteSize then .error .nameTooLong
  else if (tree.entry? (place ++ [name])).isSome then .ok (place ++ [name])
  else .error .noEntry

def walk (tree : FileTree) (start : List String) (names : List String) :
    Except OsError (List String) :=
  names.foldlM tree.step start

def origin (directory : List String) (route : Route) : List String :=
  if route.absolute then [] else directory

def routeOf (path : String) : Except OsError Route :=
  if path.toList.contains '\x00' then .error .nulInPath
  else if path.isEmpty then .error .noEntry
  else if longestPath < path.utf8ByteSize then .error .nameTooLong
  else .ok (Route.ofPath path)

def locate (tree : FileTree) (directory : List String) (route : Route) :
    Except OsError (List String) :=
  tree.walk (origin directory route) (if route.trailing then route.names ++ ["."] else route.names)

def read (tree : FileTree) (directory : List String) (path : String) :
    Except OsError (List UInt8) :=
  match routeOf path with
  | .error error => .error error
  | .ok route =>
    match tree.locate directory route with
    | .error error => .error error
    | .ok place =>
      match tree.entry? place with
      | some (.file content _) => .ok content
      | _ => .error .isDirectory

def isDirectory (tree : FileTree) (directory : List String) (route : Route) : Bool :=
  match tree.locate directory route with
  | .ok place => tree.entry? place = some .directory
  | .error _ => false

/-- The place of a new entry. What it is to stand in has to be a directory, and where the route ends
in no name of its own there is one already, which is refused as `taken`. -/
def newPlace (tree : FileTree) (directory : List String) (route : Route) (taken : OsError) :
    Except OsError (List String) :=
  match route.names.getLast? with
  | none => .error taken
  | some name =>
    match tree.walk (origin directory route) route.names.dropLast with
    | .error error => .error error
    | .ok place =>
      if tree.entry? place != some .directory then .error .notDirectory
      else if name = "." || name = ".." then .error taken
      else if longestName < name.utf8ByteSize then .error .nameTooLong
      else .ok (place ++ [name])

def makeDirectory (tree : FileTree) (directory : List String) (route : Route) :
    Except OsError FileTree :=
  match tree.newPlace directory route .entryExists with
  | .error error => .error error
  | .ok place =>
    if (tree.entry? place).isSome then .error .entryExists else .ok (tree.put place .directory)

/-- Goes through ever higher routes to the first one that is a directory or can be made one. Answers
the routes below it, highest first. -/
def climb (tree : FileTree) (directory : List String) (missing : List Route) :
    List Route → Except OsError (List Route) × FileTree
  | [] => (.ok missing, tree)
  | route :: higher =>
    match tree.makeDirectory directory route with
    | .ok made => (.ok missing, made)
    | .error .noEntry => tree.climb directory (route :: missing) higher
    | .error error =>
      if error = .entryExists && tree.isDirectory directory route then (.ok missing, tree)
      else (.error error, tree)

def descend (tree : FileTree) (directory : List String) :
    List Route → Except OsError Unit × FileTree
  | [] => (.ok (), tree)
  | route :: lower =>
    match tree.makeDirectory directory route with
    | .ok made => made.descend directory lower
    | .error error =>
      if error = .entryExists && tree.isDirectory directory route then tree.descend directory lower
      else (.error error, tree)

/-- Makes a directory, and first those above it that are missing. What has been made stays, even if
something fails later. -/
def makeDirectories (tree : FileTree) (directory : List String) (path : String) :
    Except OsError Unit × FileTree :=
  if path.isEmpty then (.ok (), tree)
  else
    match routeOf path with
    | .error error => (.error error, tree)
    | .ok route =>
      match tree.climb directory [] (route.upward (route.names.length + 1)) with
      | (.error error, tree) => (.error error, tree)
      | (.ok missing, tree) => tree.descend directory missing

def isExecutable (tree : FileTree) (place : List String) : Bool :=
  match tree.entry? place with
  | some (.file _ executable) => executable
  | _ => false

/-- Writes a file. Over one that is there only the content changes, and a new one may not be run. -/
def write (tree : FileTree) (directory : List String) (path : String) (content : List UInt8) :
    Except OsError FileTree :=
  match routeOf path with
  | .error error => .error error
  | .ok route =>
    match tree.newPlace directory route .isDirectory with
    | .error error => .error error
    | .ok place =>
      if route.trailing || tree.entry? place = some .directory then .error .isDirectory
      else .ok (tree.put place (.file content (tree.isExecutable place)))

def filesBelow (tree : FileTree) (directory : List String) : List (List String × List UInt8) :=
  tree.entries.toList.filterMap fun (place, entry) =>
    match entry with
    | .file content _ =>
      if directory.isPrefixOf place then some (place.drop directory.length, content) else none
    | .directory => none

end FileTree

end HeapGraph

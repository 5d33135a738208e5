import HeapGraph.CommandLine.Basic

/-!
The program itself. It looks at the places that a call can depend on, calls the program on what it
found there, and then carries out what has changed.
-/

namespace HeapGraph.CommandLine

def probe (path : String) : IO (Option Entry) := do
  if ← ((← IO.currentDir) / path).isDir then return some .directory
  try
    return some (.file (← IO.FS.readBinFile path).data.toList false)
  catch _ => return none

def stages (route : Route) : List Route :=
  (List.range route.names.length).map fun count =>
    ⟨route.absolute, route.names.take (count + 1), false⟩

def routeText (route : Route) : String :=
  (if route.absolute then "/" else "") ++ "/".intercalate route.names

def survey (directory : List String) (tree : FileTree) (path : String) : IO FileTree :=
  (stages (Route.ofPath path)).foldlM (fun tree route =>
    match tree.locate directory route, tree.newPlace directory route .entryExists with
    | .error .noEntry, .ok place => do
      match ← probe (routeText route) with
      | some entry => return tree.put place entry
      | none => return tree
    | _, _ => return tree) tree

def placeText (place : List String) : String :=
  "/" ++ "/".intercalate place

def carryOut (before : FileTree) (change : List String × Entry) : IO Unit := do
  unless before.entry? change.1 = some change.2 do
    match change.2 with
    | .directory => IO.FS.createDirAll (placeText change.1)
    | .file content _ => IO.FS.writeBinFile (placeText change.1) content.toByteArray

def variableNames : List String := [
  "HEAPGRAPH_OUTPUT_DIR", "HEAPGRAPH_FORMAT", "HEAPGRAPH_VIEWER", "HEAPGRAPH_DOT",
  "XDG_CACHE_HOME", "HOME", "TMPDIR", "RUST_LOG"]

def readSurroundings : IO Surroundings := do
  let values ← variableNames.mapM fun name => return (name, ← IO.getEnv name)
  return ⟨fun name => (values.lookup name).join, none⟩

def directoriesTo (place : List String) : FileTree :=
  (List.range place.length).foldl (fun tree count => tree.put (place.take (count + 1)) .directory)
    .empty

end HeapGraph.CommandLine

open HeapGraph CommandLine in
/-- Calls the program where no other program can be launched. -/
def main (arguments : List String) : IO UInt32 := do
  let surroundings ← readSurroundings
  let directory := (Route.ofPath (← IO.currentDir).toString).names
  let settings := Settings.ofSurroundings surroundings
  let paths := arguments ++ [settings.outputDir]
  let files ← paths.foldlM (survey directory) (directoriesTo directory)
  let host : Host := ⟨files, directory, ∅, fun _ => .error .badFormat, []⟩
  let answer := run (.plain "-") arguments surroundings host
  answer.host.files.entries.toList.forM (carryOut files)
  (← IO.getStdout).putStr answer.stdout
  (← IO.getStderr).putStr answer.stderr
  return answer.exit.toUInt32

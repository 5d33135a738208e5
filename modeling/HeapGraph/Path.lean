import HeapGraph.Text.Quoted

/-!
File paths as text: names with slashes between them.
-/

namespace HeapGraph.Path

def pieces : List Char → List (List Char)
  | [] => [[]]
  | c :: rest =>
    if c = '/' then [] :: pieces rest
    else match pieces rest with
      | [] => [[c]]
      | piece :: more => (c :: piece) :: more

def isAbsolute (path : String) : Bool :=
  path.toList.head? = some '/'

def join (directory path : String) : String :=
  if isAbsolute path then path
  else if directory.isEmpty || directory.toList.getLast? = some '/' then directory ++ path
  else directory ++ "/" ++ path

def isIdle (piece : List Char) : Bool :=
  piece = [] || piece = ['.']

def dropSuffix (part chars : List Char) : List Char :=
  chars.take (chars.length - part.length)

/-- The path up to and with its last name, and that name: what stands behind it are slashes and dots
that lead nowhere. A path that ends in the parent directory has none, and neither has a path without
names. -/
def lastName? (chars : List Char) : Option (List Char × List Char) :=
  let all := pieces chars
  let idle := (all.reverse.takeWhile isIdle).length
  match all.reverse.drop idle with
  | [] => none
  | name :: before =>
    if name = ['.', '.'] then none
    else some (['/'].intercalate (before.reverse ++ [name]), name)

/-- A name in front of its last dot and behind it. A dot at the beginning does not count. -/
def splitExtension (name : List Char) : List Char × Option (List Char) :=
  let behind := name.reverse.takeWhile (· != '.')
  let stem := name.take (name.length - behind.length - 1)
  if behind.length < name.length && stem != [] then (stem, some behind.reverse) else (name, none)

def setExtension (chars extension : List Char) : List Char :=
  match lastName? chars with
  | none => chars
  | some (path, name) =>
    let stem := (splitExtension name).1
    dropSuffix name path ++ stem ++ (if extension = [] then [] else '.' :: extension)

def cutExtension (chars : List Char) : List Char :=
  match lastName? chars with
  | none => chars
  | some (_, name) => dropSuffix ((splitExtension name).2.getD []) chars

/-- The path with another extension: what the old one leaves behind is a path again, and its last
name is what the new one goes to. An extension with a slash is a reason to panic. -/
def withExtension (path extension : String) : Except String String :=
  if extension.toList.contains '/' then
    .error ("extension cannot contain path separators: " ++
      Text.quoteWith ['"', '\''] extension)
  else .ok (String.ofList (setExtension (cutExtension path.toList) extension.toList))

end HeapGraph.Path

import HeapGraph.Text.Similarity

/-!
What the arguments of the program ask for.
-/

namespace HeapGraph.CommandLine

inductive Flag where
  | help
  | version
  deriving Repr, DecidableEq

namespace Flag

def all : List Flag := [help, version]

def name : Flag → String
  | help => "help"
  | version => "version"

def letter : Flag → Char
  | help => 'h'
  | version => 'V'

def written (flag : Flag) : String :=
  "--" ++ flag.name

def ofName? (name : String) : Option Flag :=
  all.find? (·.name = name)

def ofLetter? (letter : Char) : Option Flag :=
  all.find? (·.letter = letter)

end Flag

inductive Hint where
  /-- How to hand it over as a path. -/
  | asValue
  /-- The option that may have been meant. -/
  | similar (flag : Flag)
  deriving Repr, DecidableEq

inductive UsageError where
  | missingPath
  | emptyPath
  | unexpectedArgument (argument : String) (hint : Option Hint)
  | unexpectedValue (value : String) (flag : Flag)
  deriving Repr, DecidableEq

inductive Request where
  | tell (flag : Flag)
  | display (path : String)
  deriving Repr, DecidableEq

inductive Argument where
  | value
  /-- From here on everything is a value. -/
  | divider
  | option (name : String) (value : Option String)
  | letters (first : Char)
  deriving Repr, DecidableEq

/-- A lone dash is a value. An option carries the value behind its first equals sign. -/
def Argument.ofText (text : String) : Argument :=
  match text.toList with
  | ['-'] => .value
  | ['-', '-'] => .divider
  | '-' :: '-' :: body =>
    let name := body.takeWhile (· != '=')
    .option (String.ofList name) (if name.length = body.length then none
      else some (String.ofList (body.drop (name.length + 1))))
  | '-' :: first :: _ => .letters first
  | _ => .value

/-- A path that was given is looked at when something else comes up. -/
def settle (path : Option String) (request : String → Request) (absent : Except UsageError Request) :
    Except UsageError Request :=
  match path with
  | none => absent
  | some path => if path.isEmpty then .error .emptyPath else .ok (request path)

def tell (flag : Flag) (path : Option String) : Except UsageError Request :=
  settle path (fun _ => .tell flag) (.ok (.tell flag))

def hintFor (name : String) : Hint :=
  match (Text.mostSimilar? name (Flag.all.map Flag.name)).bind Flag.ofName? with
  | some flag => .similar flag
  | none => .asValue

/-- Reads the arguments in order, until one tells that it is of no use to read on. `path` is the path
that has been met, and `divided` tells whether the divider has. -/
def readArguments (path : Option String) (divided : Bool) : List String → Except UsageError Request
  | [] => settle path .display (.error .missingPath)
  | text :: rest =>
    match if divided then .value else Argument.ofText text with
    | .value =>
      if path.isSome then .error (.unexpectedArgument text none)
      else readArguments (some text) divided rest
    | .divider => readArguments path true rest
    | .option name value =>
      match Flag.ofName? name, value with
      | none, _ => .error (.unexpectedArgument ("--" ++ name) (some (hintFor name)))
      | some flag, some value => .error (.unexpectedValue value flag)
      | some flag, none => tell flag path
    | .letters first =>
      match Flag.ofLetter? first with
      | none => .error (.unexpectedArgument (String.ofList ['-', first]) (some .asValue))
      | some flag => tell flag path

def Request.ofArguments (arguments : List String) : Except UsageError Request :=
  readArguments none false arguments

end HeapGraph.CommandLine

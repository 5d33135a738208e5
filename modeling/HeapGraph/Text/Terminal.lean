/-!
Text without what a terminal would obey instead of showing it.
-/

namespace HeapGraph.Text

inductive TerminalState where
  | plain
  /-- Behind the character that opens an escape sequence. -/
  | escape
  | escapeMore
  | controlSequence
  /-- Inside a text for the terminal itself, which a bell can end. -/
  | title
  /-- Inside a text that is not shown. -/
  | hidden
  deriving Repr, DecidableEq

def isAsciiBlank (c : Char) : Bool :=
  c = ' ' || c = '\t' || c = '\n' || c = '\r' || c = '\x0c'

def isShown (c : Char) : Bool :=
  isAsciiBlank c || (' ' < c && c != '\x7f')

def TerminalState.ofEscape (c : Char) : TerminalState :=
  if c = '[' then .controlSequence
  else if c = ']' then .title
  else if c ∈ ['P', 'X', '^', '_'] then .hidden
  else if '!' ≤ c && c ≤ '/' then .escapeMore
  else if '0' ≤ c && c ≤ '~' then .plain
  else .escape

def TerminalState.next (state : TerminalState) (c : Char) : TerminalState :=
  if c = '\x1b' then .escape
  else if c = '\x18' || c = '\x1a' then .plain
  else match state with
    | plain => .plain
    | escape => if c = ' ' then .escapeMore else if isAsciiBlank c then .plain else ofEscape c
    | escapeMore =>
      if ('0' ≤ c && c ≤ '~') || (isAsciiBlank c && c != ' ') then .plain else .escapeMore
    | controlSequence =>
      if ('@' ≤ c && c ≤ '~') || (isAsciiBlank c && c != ' ') then .plain else .controlSequence
    | title => if c = '\x07' then .plain else .title
    | hidden => if c = '\u009c' then .plain else .hidden

/-- Whether a state lets a character through. Line breaks and tabs also break off a sequence. -/
def TerminalState.shows (state : TerminalState) (c : Char) : Bool :=
  match state with
  | plain => isShown c
  | escape | escapeMore | controlSequence => isAsciiBlank c && c != ' '
  | title | hidden => false

def shownChars (state : TerminalState) : List Char → List Char
  | [] => []
  | c :: rest =>
    let shown := shownChars (state.next c) rest
    if state.shows c then c :: shown else shown

/-- The text as it is written where there is no terminal. -/
def shown (text : String) : String :=
  String.ofList (shownChars .plain text.toList)

end HeapGraph.Text

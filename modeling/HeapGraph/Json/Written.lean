import HeapGraph.Text.Hex

/-!
The compact written form of JSON: no blanks between the parts, and only the characters that have to
be escaped in a string are.
-/

namespace HeapGraph.Json

def escapeChar (c : Char) : List Char :=
  if c = '"' then ['\\', '"']
  else if c = '\\' then ['\\', '\\']
  else if c = '\x08' then ['\\', 'b']
  else if c = '\x0c' then ['\\', 'f']
  else if c = '\n' then ['\\', 'n']
  else if c = '\r' then ['\\', 'r']
  else if c = '\t' then ['\\', 't']
  else if c.toNat < 0x20 then ['\\', 'u', '0', '0'] ++ Text.hexByte (UInt8.ofNat c.toNat)
  else [c]

def stringChars (text : String) : List Char :=
  '"' :: text.toList.flatMap escapeChar ++ ['"']

def boolChars (value : Bool) : List Char :=
  if value then "true".toList else "false".toList

def optionChars : Option String → List Char
  | some text => stringChars text
  | none => "null".toList

def separated : List (List Char) → List Char
  | [] => []
  | [item] => item
  | item :: rest => item ++ ',' :: separated rest

def arrayChars (items : List (List Char)) : List Char :=
  '[' :: separated items ++ [']']

def objectChars (members : List (String × List Char)) : List Char :=
  '\x7b' :: separated (members.map fun member => stringChars member.1 ++ ':' :: member.2) ++ ['\x7d']

def writeString (text : String) : String :=
  String.ofList (stringChars text)

end HeapGraph.Json

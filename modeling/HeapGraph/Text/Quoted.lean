import HeapGraph.Text.Unprintable

/-!
Quoted text for messages: between double quotes, with everything that would not show written as an
escape.
-/

namespace HeapGraph.Text

def hexDigits (value : Nat) : List Char :=
  Nat.toDigits 16 value

def quoteChar (marks : List Char) (c : Char) : List Char :=
  if c = '\x00' then ['\\', '0']
  else if c = '\t' then ['\\', 't']
  else if c = '\r' then ['\\', 'r']
  else if c = '\n' then ['\\', 'n']
  else if c = '\\' then ['\\', '\\']
  else if c ∈ marks then ['\\', c]
  else if unprintable.contains c then ['\\', 'u', '\x7b'] ++ hexDigits c.toNat ++ ['\x7d']
  else [c]

def quoteWith (marks : List Char) (text : String) : String :=
  String.ofList ('"' :: text.toList.flatMap (quoteChar marks) ++ ['"'])

def quote (text : String) : String :=
  quoteWith ['"'] text

end HeapGraph.Text

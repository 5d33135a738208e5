import HeapGraph.Decimal.Shortest
import HeapGraph.Text.Quoted

/-!
What can be wrong with a JSON document, where, and in which words.
-/

namespace HeapGraph.Json

/-- Whether a document breaks the grammar, says something other than was asked for, or ends early. -/
inductive Category where
  | grammar
  | content
  | ending
  deriving Repr, DecidableEq

inductive Found where
  | null
  | boolean (value : Bool)
  | integer (value : Int)
  | decimal (value : Float)
  | text (value : String)
  | sequence
  | map

def Found.describe : Found → String
  | null => "null"
  | boolean value => "boolean `" ++ (if value then "true" else "false") ++ "`"
  | integer value => "integer `" ++ value.repr ++ "`"
  | decimal value => "floating point `" ++ Decimal.text value ++ "`"
  | text value => "string " ++ Text.quote value
  | sequence => "sequence"
  | map => "map"

inductive Complaint where
  | missingField (name : String)
  | duplicateField (name : String)
  | wrongLength (length : Nat) (expected : String)

inductive Cause where
  | endInList
  | endInObject
  | endInString
  | endInValue
  | expectedColon
  | expectedListCommaOrEnd
  | expectedObjectCommaOrEnd
  | expectedLiteral
  | expectedValue
  | invalidEscape
  | invalidNumber
  | numberTooLarge
  | invalidCodePoint
  | controlCharacter
  | keyNotString
  | loneSurrogate
  | trailingComma
  | trailingCharacters
  | unpairedSurrogate
  | wrongKind (found : Found) (expected : String)
  | outOfRange (value : Int) (expected : String)
  | record (complaint : Complaint)

def Complaint.message : Complaint → String
  | missingField name => "missing field `" ++ name ++ "`"
  | duplicateField name => "duplicate field `" ++ name ++ "`"
  | wrongLength length expected => "invalid length " ++ length.repr ++ ", expected " ++ expected

namespace Cause

def category : Cause → Category
  | endInList | endInObject | endInString | endInValue => .ending
  | wrongKind .. | outOfRange .. | record _ => .content
  | _ => .grammar

def message : Cause → String
  | endInList => "EOF while parsing a list"
  | endInObject => "EOF while parsing an object"
  | endInString => "EOF while parsing a string"
  | endInValue => "EOF while parsing a value"
  | expectedColon => "expected `:`"
  | expectedListCommaOrEnd => "expected `,` or `]`"
  | expectedObjectCommaOrEnd => "expected `,` or `\x7d`"
  | expectedLiteral => "expected ident"
  | expectedValue => "expected value"
  | invalidEscape => "invalid escape"
  | invalidNumber => "invalid number"
  | numberTooLarge => "number out of range"
  | invalidCodePoint => "invalid unicode code point"
  | controlCharacter => "control character (\\u0000-\\u001F) found while parsing a string"
  | keyNotString => "key must be a string"
  | loneSurrogate => "lone leading surrogate in hex escape"
  | trailingComma => "trailing comma"
  | trailingCharacters => "trailing characters"
  | unpairedSurrogate => "unexpected end of hex escape"
  | wrongKind found expected => "invalid type: " ++ found.describe ++ ", expected " ++ expected
  | outOfRange value expected => "invalid value: integer `" ++ value.repr ++ "`, expected " ++ expected
  | record complaint => complaint.message

end Cause

/-- A cause and the number of bytes before the place it is reported at. -/
structure Fault where
  cause : Cause
  offset : Nat

/-- A cause and its place: lines count from one, and columns count the bytes since the line began. -/
structure Mistake where
  cause : Cause
  line : Nat
  column : Nat

def newline : UInt8 := 0x0A

def Fault.locate (document : List UInt8) (fault : Fault) : Mistake :=
  let before := document.take fault.offset
  ⟨fault.cause, before.count newline + 1, (before.reverse.takeWhile (· != newline)).length⟩

def Mistake.message (mistake : Mistake) : String :=
  mistake.cause.message ++ " at line " ++ mistake.line.repr ++ " column " ++ mistake.column.repr

end HeapGraph.Json

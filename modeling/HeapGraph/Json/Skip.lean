import HeapGraph.Json.Number
import HeapGraph.Json.Text

/-!
Values that nobody asked for. They are held to the grammar and nothing else, however deeply they are
nested: the brackets that are open wait on a stack.
-/

namespace HeapGraph.Json

inductive Bracket where
  | list
  | object
  deriving Repr, DecidableEq

namespace Bracket

def closing : Bracket → UInt8
  | list => 0x5D
  | object => 0x7D

def expectedCommaOrEnd : Bracket → Cause
  | list => .expectedListCommaOrEnd
  | object => .expectedObjectCommaOrEnd

def endInside : Bracket → Cause
  | list => .endInList
  | object => .endInObject

end Bracket

def openList : UInt8 := 0x5B
def openObject : UInt8 := 0x7B
def comma : UInt8 := 0x2C
def colon : UInt8 := 0x3A

def restOfNull : List UInt8 := [0x75, 0x6C, 0x6C]
def restOfTrue : List UInt8 := [0x72, 0x75, 0x65]
def restOfFalse : List UInt8 := [0x61, 0x6C, 0x73, 0x65]

def restOfWord? (byte : UInt8) : Option (List UInt8) :=
  if byte = 0x6E then some restOfNull
  else if byte = 0x74 then some restOfTrue
  else if byte = 0x66 then some restOfFalse
  else none

def skipExponent (c : Cursor) : Except Fault Cursor :=
  let c := (c.drop 1).peek
  let c := if c.nextIs (fun byte => byte = plus || byte = minus) then c.drop 1 else c
  if c.nextIs isDigit then .ok c.dropDigits.peek
  else if c.rest.isEmpty then .error (c.faultHere .invalidNumber)
  else .error ((c.drop 1).faultHere .invalidNumber)

def skipFraction (c : Cursor) : Except Fault Cursor :=
  let digits := c.drop 1
  let c := digits.dropDigits.peek
  if !digits.nextIs isDigit then .error (c.faultNext .invalidNumber)
  else if c.nextIs isExponentMark then skipExponent c
  else .ok c

def skipAfterWhole (c : Cursor) : Except Fault Cursor :=
  if c.nextIs (· = point) then skipFraction c
  else if c.nextIs isExponentMark then skipExponent c
  else .ok c

def skipUnsigned (c : Cursor) : Except Fault Cursor :=
  match c.rest with
  | [] => .error (c.faultHere .invalidNumber)
  | byte :: _ =>
    if byte = 0x30 then
      let c := (c.drop 1).peek
      if c.nextIs isDigit then .error (c.faultNext .invalidNumber) else skipAfterWhole c
    else if isDigit byte then skipAfterWhole c.dropDigits.peek
    else .error ((c.drop 1).faultHere .invalidNumber)

def skipScalar (byte : UInt8) (c : Cursor) : Except Fault Cursor :=
  match restOfWord? byte with
  | some word => readLiteral word (c.drop 1)
  | none =>
    if byte = minus then skipUnsigned (c.drop 1)
    else if isDigit byte then skipUnsigned c
    else if byte = quotationMark then skipString (c.drop 1)
    else .error (c.faultNext .expectedValue)

def readColon (c : Cursor) : Except Fault Cursor :=
  let c := c.skipBlanks
  match c.rest with
  | [] => .error (c.faultNext .endInObject)
  | byte :: _ => if byte = colon then .ok (c.drop 1) else .error (c.faultNext .expectedColon)

def skipKey (c : Cursor) : Except Fault Cursor :=
  let c := c.skipBlanks
  match c.rest with
  | [] => .error (c.faultNext .endInObject)
  | byte :: _ =>
    if byte = quotationMark then
      match skipString (c.drop 1) with
      | .error fault => .error fault
      | .ok c => readColon c
    else .error (c.faultNext .keyNotString)

section Lengths

variable {c c' : Cursor}

theorem skipExponent_length_le (read : skipExponent c = .ok c') :
    c'.rest.length ≤ c.rest.length := by
  unfold skipExponent at read
  dsimp only at read
  generalize next : (if (c.drop 1).peek.nextIs (fun byte => byte = plus || byte = minus) = true
    then (c.drop 1).peek.drop 1 else (c.drop 1).peek) = after at read
  have shorter : after.rest.length ≤ c.rest.length := by
    rw [← next]
    split <;> simp only [Cursor.drop_rest, Cursor.peek_rest, List.length_drop] <;> omega
  have digits := after.dropDigits_length_le
  split at read
  · cases read
    simp
    omega
  · split at read <;> cases read

theorem skipFraction_length_le (read : skipFraction c = .ok c') :
    c'.rest.length ≤ c.rest.length := by
  have digits := (c.drop 1).dropDigits_length_le
  simp at digits
  unfold skipFraction at read
  dsimp only at read
  split at read
  · cases read
  · split at read
    · have := skipExponent_length_le read
      simp at this
      omega
    · cases read
      simp
      omega

theorem skipAfterWhole_length_le (read : skipAfterWhole c = .ok c') :
    c'.rest.length ≤ c.rest.length := by
  unfold skipAfterWhole at read
  split at read
  · exact skipFraction_length_le read
  · split at read
    · exact skipExponent_length_le read
    · cases read
      exact Nat.le_refl _

theorem skipUnsigned_length_lt (read : skipUnsigned c = .ok c') :
    c'.rest.length < c.rest.length := by
  unfold skipUnsigned at read
  split at read
  · cases read
  · rename_i byte rest found
    split at read
    · dsimp only at read
      split at read
      · cases read
      · have := skipAfterWhole_length_le read
        simp [found] at this ⊢
        omega
    · split at read
      · rename_i digit
        have shorter := skipAfterWhole_length_le read
        have tail := (List.takeWhile_sublist isDigit (l := rest)).length_le
        simp [Cursor.dropDigits, found, digit] at shorter ⊢
        omega
      · cases read

theorem skipScalar_length_lt {byte : UInt8} {rest : List UInt8} (found : c.rest = byte :: rest)
    (read : skipScalar byte c = .ok c') : c'.rest.length < c.rest.length := by
  unfold skipScalar at read
  split at read
  · have := readLiteral_length_le read
    simp [found] at this ⊢
    omega
  · split at read
    · have := skipUnsigned_length_lt read
      simp [found] at this ⊢
      omega
    · split at read
      · exact skipUnsigned_length_lt read
      · split at read
        · have := skipString_length_lt read
          simp [found] at this ⊢
          omega
        · cases read

theorem readColon_length_lt (read : readColon c = .ok c') : c'.rest.length < c.rest.length := by
  have blanks := c.skipBlanks_length_le
  unfold readColon at read
  dsimp only at read
  split at read
  · cases read
  · rename_i found
    split at read
    · cases read
      simp [found] at blanks ⊢
      omega
    · cases read

theorem skipKey_length_lt (read : skipKey c = .ok c') : c'.rest.length < c.rest.length := by
  have blanks := c.skipBlanks_length_le
  unfold skipKey at read
  dsimp only at read
  split at read
  · cases read
  · rename_i found
    split at read
    · split at read
      · cases read
      · rename_i key
        have key := skipString_length_lt key
        have := readColon_length_lt read
        simp [found] at key blanks
        omega
    · cases read

end Lengths

/-- What a skipped value waits for: a value; the first element or the end of a bracket just opened;
or what comes after a value. -/
inductive Awaiting where
  | value
  | opened
  | following
  deriving Repr, DecidableEq

def Awaiting.patience : Awaiting → Nat
  | value => 0
  | opened => 1
  | following => 0

/-- Takes a value, and then what is left of the brackets of `stack` around it, innermost first. -/
def skip (awaiting : Awaiting) (stack : List Bracket) (c : Cursor) : Except Fault Cursor :=
  match awaiting with
  | .value =>
    let next := c.skipBlanks
    match _found : next.rest with
    | [] => .error (next.faultNext .endInValue)
    | byte :: _ =>
      if byte = openList then skip .opened (.list :: stack) (next.drop 1)
      else if byte = openObject then skip .opened (.object :: stack) (next.drop 1)
      else
        match _scalar : skipScalar byte next with
        | .error fault => .error fault
        | .ok after => skip .following stack after
  | .opened =>
    match stack with
    | [] => .ok c
    | bracket :: outer =>
      let next := c.skipBlanks
      match _found : next.rest with
      | [] => .error (next.faultNext bracket.endInside)
      | byte :: _ =>
        if byte = bracket.closing then skip .following outer (next.drop 1)
        else
          match bracket with
          | .list => skip .value (.list :: outer) next
          | .object =>
            match _key : skipKey next with
            | .error fault => .error fault
            | .ok after => skip .value (.object :: outer) after
  | .following =>
    match stack with
    | [] => .ok c
    | bracket :: outer =>
      let next := c.skipBlanks
      match _found : next.rest with
      | [] => .error (next.faultNext bracket.endInside)
      | byte :: _ =>
        if byte = bracket.closing then skip .following outer (next.drop 1)
        else if byte = comma then
          match bracket with
          | .list => skip .value (.list :: outer) (next.drop 1)
          | .object =>
            match _key : skipKey (next.drop 1) with
            | .error fault => .error fault
            | .ok after => skip .value (.object :: outer) after
        else .error (next.faultNext bracket.expectedCommaOrEnd)
termination_by (c.rest.length, awaiting.patience)
decreasing_by
  all_goals
    have blanks := c.skipBlanks_length_le
    have tail := congrArg List.length _found
    simp only [next, List.length_cons] at tail
    rw [Prod.lex_def]
    try have shorter := skipScalar_length_lt _found _scalar
    try have shorter := skipKey_length_lt _key
    try simp [next] at shorter
    simp [Awaiting.patience]
    omega

theorem skip_length_le {awaiting : Awaiting} {stack : List Bracket} {c c' : Cursor}
    (read : skip awaiting stack c = .ok c') : c'.rest.length ≤ c.rest.length := by
  fun_induction skip awaiting stack c
  case case1 | case4 | case7 | case10 | case13 | case16 | case18 => cases read
  case case6 | case12 => cases read; exact Nat.le_refl _
  case case2 c _ _ _ ih | case3 c _ _ _ _ ih | case8 c _ _ _ _ _ ih | case14 c _ _ _ _ _ ih |
      case15 c _ _ _ _ _ ih =>
    have shorter := ih read
    have blanks := c.skipBlanks_length_le
    simp only [Cursor.drop_rest, List.length_drop] at shorter
    exact Nat.le_trans shorter (Nat.le_trans (Nat.sub_le _ _) blanks)
  case case5 c _ _ _ found _ _ _ scalar ih =>
    have taken := skipScalar_length_lt found scalar
    exact Nat.le_trans (ih read) (Nat.le_trans (Nat.le_of_lt taken) c.skipBlanks_length_le)
  case case9 c _ _ _ _ _ _ ih =>
    exact Nat.le_trans (ih read) c.skipBlanks_length_le
  case case11 c _ _ _ _ _ _ key _ ih =>
    have taken := skipKey_length_lt key
    exact Nat.le_trans (ih read) (Nat.le_trans (Nat.le_of_lt taken) c.skipBlanks_length_le)
  case case17 c _ _ _ _ key _ _ ih =>
    have taken := skipKey_length_lt key
    simp only [Cursor.drop_rest, List.length_drop] at taken
    have blanks := c.skipBlanks_length_le
    exact Nat.le_trans (ih read) (Nat.le_trans (Nat.le_of_lt taken)
      (Nat.le_trans (Nat.sub_le _ _) blanks))

def skipValue (c : Cursor) : Except Fault Cursor :=
  skip .value [] c

end HeapGraph.Json

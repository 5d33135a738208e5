import HeapGraph.Json.Skip

/-!
Readers of single values and of lists.

A reader takes one value of a kind that is wanted. Taking one takes at least a byte, which is what
lets a list be read without a bound on its length.
-/

namespace HeapGraph.Json

structure Reader (α : Type) where
  run : Cursor → Except Fault (α × Cursor)
  advances : ∀ {c c' : Cursor} {value : α},
    run c = .ok (value, c') → c'.rest.length < c.rest.length

def Reader.map {α β : Type} (f : α → β) (reader : Reader α) : Reader β where
  run c :=
    match reader.run c with
    | .error fault => .error fault
    | .ok (value, c) => .ok (f value, c)
  advances := by
    intro c c' value read
    split at read
    · cases read
    · rename_i run
      simp only [Except.ok.injEq, Prod.mk.injEq] at read
      rw [← read.2]
      exact reader.advances run

/-- The fault of a value of another kind than the one that is wanted. Its kind is found out first,
and a fault met on the way comes before that of the kind. -/
def wrongKind (expected : String) (c : Cursor) : Fault :=
  let mismatch (found : Found) (c : Cursor) : Fault := c.faultHere (.wrongKind found expected)
  match c.rest with
  | [] => c.faultNext .expectedValue
  | byte :: _ =>
    match restOfWord? byte with
    | some word =>
      match readLiteral word (c.drop 1) with
      | .error fault => fault
      | .ok c => mismatch (if byte = 0x6E then .null else .boolean (byte = 0x74)) c
    | none =>
      if startsNumber byte then
        match readNumber c with
        | .error fault => fault
        | .ok (number, c) => mismatch number.found c
      else if byte = quotationMark then
        match readString (c.drop 1) with
        | .error fault => fault
        | .ok (text, c) => mismatch (.text text) c
      else if byte = openList then mismatch .sequence c
      else if byte = openObject then mismatch .map c
      else c.faultNext .expectedValue

def Reader.ofFirst {α : Type} (read : (byte : UInt8) → Cursor → Except Fault (α × Cursor))
    (advances : ∀ {byte : UInt8} {rest : List UInt8} {c c' : Cursor} {value : α},
      c.rest = byte :: rest → read byte c = .ok (value, c') → c'.rest.length < c.rest.length) :
    Reader α where
  run c :=
    let c := c.skipBlanks
    match c.rest with
    | [] => .error (c.faultNext .endInValue)
    | byte :: _ => read byte c
  advances := by
    intro c c' value run
    dsimp only at run
    split at run
    · cases run
    · rename_i found
      exact Nat.lt_of_lt_of_le (advances found run) c.skipBlanks_length_le

def readQuoted (c : Cursor) : Except Fault (String × Cursor) :=
  readString (c.drop 1)

theorem readQuoted_length_lt {byte : UInt8} {rest : List UInt8} {c c' : Cursor} {text : String}
    (found : c.rest = byte :: rest) (read : readQuoted c = .ok (text, c')) :
    c'.rest.length < c.rest.length := by
  have := readString_length_lt read
  simp [found] at this ⊢
  omega

def readWord {α : Type} (word : List UInt8) (value : α) (c : Cursor) :
    Except Fault (α × Cursor) :=
  match readLiteral word (c.drop 1) with
  | .error fault => .error fault
  | .ok c => .ok (value, c)

theorem readWord_length_lt {α : Type} {word rest : List UInt8} {byte : UInt8} {c c' : Cursor}
    {value result : α} (found : c.rest = byte :: rest)
    (read : readWord word value c = .ok (result, c')) : c'.rest.length < c.rest.length := by
  unfold readWord at read
  split at read
  · cases read
  · rename_i literal
    have := readLiteral_length_le literal
    cases read
    simp [found] at this ⊢
    omega

def string : Reader String :=
  .ofFirst
    (fun byte c => if byte = quotationMark then readQuoted c else .error (wrongKind "a string" c))
    (by
      intro byte rest c c' value found read
      split at read
      · exact readQuoted_length_lt found read
      · cases read)

def stringOrNull : Reader (Option String) :=
  .ofFirst
    (fun byte c =>
      if byte = 0x6E then readWord restOfNull none c
      else if byte = quotationMark then
        match readQuoted c with
        | .error fault => .error fault
        | .ok (text, c) => .ok (some text, c)
      else .error (wrongKind "a string" c))
    (by
      intro byte rest c c' value found read
      split at read
      · exact readWord_length_lt found read
      · split at read
        · split at read
          · cases read
          · rename_i quoted
            cases read
            exact readQuoted_length_lt found quoted
        · cases read)

def boolean : Reader Bool :=
  .ofFirst
    (fun byte c =>
      if byte = 0x74 then readWord restOfTrue true c
      else if byte = 0x66 then readWord restOfFalse false c
      else .error (wrongKind "a boolean" c))
    (by
      intro byte rest c c' value found read
      split at read
      · exact readWord_length_lt found read
      · split at read
        · exact readWord_length_lt found read
        · cases read)

def octetOf (number : Number) (c : Cursor) : Except Fault (UInt8 × Cursor) :=
  match number with
  | .natural value =>
    if value < 256 then .ok (UInt8.ofNat value, c)
    else .error (c.faultHere (.outOfRange value "u8"))
  | .negative value => .error (c.faultHere (.outOfRange (-value) "u8"))
  | .decimal value => .error (c.faultHere (.wrongKind (.decimal value) "u8"))

def octet : Reader UInt8 :=
  .ofFirst
    (fun byte c =>
      if startsNumber byte then
        match readNumber c with
        | .error fault => .error fault
        | .ok (number, c) => octetOf number c
      else .error (wrongKind "u8" c))
    (by
      intro byte rest c c' value found read
      split at read
      · split at read
        · cases read
        · rename_i number
          have shorter := readNumber_length_lt number
          unfold octetOf at read
          split at read
          · split at read
            · cases read
              exact shorter
            · cases read
          · cases read
          · cases read
      · cases read)

/-- Whether another element follows in a list, with the comma before it taken. The first one has
none. -/
def nextElement (first : Bool) (c : Cursor) : Except Fault (Bool × Cursor) :=
  let c := c.skipBlanks
  match c.rest with
  | [] => .error (c.faultNext .endInList)
  | byte :: _ =>
    if byte = Bracket.list.closing then .ok (false, c)
    else if first then .ok (true, c)
    else if byte = comma then
      let c := (c.drop 1).skipBlanks
      match c.rest with
      | [] => .error (c.faultNext .endInValue)
      | byte :: _ =>
        if byte = Bracket.list.closing then .error (c.faultNext .trailingComma) else .ok (true, c)
    else .error (c.faultNext .expectedListCommaOrEnd)

theorem nextElement_length_le {first more : Bool} {c c' : Cursor}
    (next : nextElement first c = .ok (more, c')) : c'.rest.length ≤ c.rest.length := by
  have blanks := c.skipBlanks_length_le
  unfold nextElement at next
  dsimp only at next
  split at next
  · cases next
  · split at next
    · cases next
      exact blanks
    · split at next
      · cases next
        exact blanks
      · split at next
        · have again := (c.skipBlanks.drop 1).skipBlanks_length_le
          split at next
          · cases next
          · split at next
            · cases next
            · cases next
              simp at again
              omega
        · cases next

def closeList (c : Cursor) : Option Cause × Cursor :=
  let c := c.skipBlanks
  match c.rest with
  | [] => (some .endInList, c)
  | byte :: _ =>
    if byte = Bracket.list.closing then (none, c.drop 1)
    else if byte = comma then
      let c := (c.drop 1).skipBlanks
      (some (if c.nextIs (· = Bracket.list.closing) then .trailingComma else .trailingCharacters), c)
    else (some .trailingCharacters, c)

def closeObject (c : Cursor) : Option Cause × Cursor :=
  let c := c.skipBlanks
  match c.rest with
  | [] => (some .endInObject, c)
  | byte :: _ =>
    if byte = Bracket.object.closing then (none, c.drop 1)
    else (some (if byte = comma then .trailingComma else .trailingCharacters), c)

theorem closeList_length_le (c : Cursor) : (closeList c).2.rest.length ≤ c.rest.length := by
  have blanks := c.skipBlanks_length_le
  unfold closeList
  dsimp only
  split
  · exact blanks
  · split
    · simp
      omega
    · split
      · have again := (c.skipBlanks.drop 1).skipBlanks_length_le
        simp at again
        dsimp only
        omega
      · exact blanks

theorem closeObject_length_le (c : Cursor) : (closeObject c).2.rest.length ≤ c.rest.length := by
  have blanks := c.skipBlanks_length_le
  unfold closeObject
  dsimp only
  split
  · exact blanks
  · split
    · simp
      omega
    · exact blanks

/-- What was read between two brackets, once the look for the closing one has come to rest: a
complaint about it is placed there, and comes before what is wrong with the end. -/
def settle {α : Type} (outcome : Except Complaint α) (close : Option Cause × Cursor) :
    Except Fault (α × Cursor) :=
  match outcome, close.1 with
  | .error complaint, _ => .error (close.2.faultHere (.record complaint))
  | .ok value, none => .ok (value, close.2)
  | .ok _, some cause => .error (close.2.faultNext cause)

theorem settle_eq_ok {α : Type} {outcome : Except Complaint α} {close : Option Cause × Cursor}
    {value : α} {c' : Cursor} (read : settle outcome close = .ok (value, c')) :
    outcome = .ok value ∧ close = (none, c') := by
  unfold settle at read
  split at read
  · cases read
  · rename_i closed
    simp only [Except.ok.injEq, Prod.mk.injEq] at read
    exact ⟨by rw [read.1], Prod.ext closed read.2⟩
  · cases read

/-- The elements of a list from here up to its closing bracket, behind those of `before` (last one
first). -/
def readElements {α : Type} (item : Reader α) (first : Bool) (before : List α) (c : Cursor) :
    Except Fault (List α × Cursor) :=
  match _next : nextElement first c with
  | .error fault => .error fault
  | .ok (false, c) => .ok (before.reverse, c)
  | .ok (true, start) =>
    match _item : item.run start with
    | .error fault => .error fault
    | .ok (value, after) => readElements item false (value :: before) after
termination_by c.rest.length
decreasing_by
  exact Nat.lt_of_lt_of_le (item.advances _item) (nextElement_length_le _next)

theorem readElements_length_le {α : Type} {item : Reader α} {first : Bool} {before values : List α}
    {c c' : Cursor} (read : readElements item first before c = .ok (values, c')) :
    c'.rest.length ≤ c.rest.length := by
  fun_induction readElements item first before c
  case case1 | case3 => cases read
  case case2 next =>
    cases read
    exact nextElement_length_le next
  case case4 next _ _ value ih =>
    exact Nat.le_trans (ih read)
      (Nat.le_trans (Nat.le_of_lt (item.advances value)) (nextElement_length_le next))

def list {α : Type} (item : Reader α) : Reader (List α) :=
  .ofFirst
    (fun byte c =>
      if byte = openList then
        match readElements item true [] (c.drop 1) with
        | .error fault => .error fault
        | .ok (values, c) => settle (.ok values) (closeList c)
      else .error (wrongKind "a sequence" c))
    (by
      intro byte rest c c' value found read
      split at read
      · split at read
        · cases read
        · rename_i after elements
          have inside := readElements_length_le elements
          have close := closeList_length_le after
          rw [(settle_eq_ok read).2] at close
          simp [found] at inside close ⊢
          omega
      · cases read)

end HeapGraph.Json

import HeapGraph.Json.Reader

/-!
Readers of records: objects whose keys are the names of the fields, in any order and among others
that are skipped, or lists of the fields by position.

A record is gathered in a draft, field by field. What is wrong with the record as a whole is told
when its end has been looked for.
-/

namespace HeapGraph.Json

structure Field (σ : Type) where
  name : String
  /-- Whether a list of the fields may not end before this one. -/
  required : Bool
  filled : σ → Bool
  /-- Reads the value of the field into a draft. -/
  fill : σ → Reader σ

structure RecordForm (σ α : Type) where
  /-- What messages call the record. -/
  title : String
  fields : List (Field σ)
  blank : σ
  finish : σ → Except Complaint α

def Field.ofReader {σ α : Type} (name : String) (reader : Reader α) (required : Bool)
    (get : σ → Option α) (set : σ → α → σ) : Field σ :=
  ⟨name, required, fun draft => (get draft).isSome, fun draft => reader.map (set draft)⟩

def need {α : Type} (name : String) : Option α → Except Complaint α
  | some value => .ok value
  | none => .error (.missingField name)

/-- The key that follows in an object, with its quotation marks and the comma before it taken, or
nothing at the end. The first one has no comma. -/
def nextKey (first : Bool) (c : Cursor) : Except Fault (Option String × Cursor) :=
  let c := c.skipBlanks
  match c.rest with
  | [] => .error (c.faultNext .endInObject)
  | byte :: _ =>
    if byte = Bracket.object.closing then .ok (none, c)
    else if first then
      if byte = quotationMark then
        match readString (c.drop 1) with
        | .error fault => .error fault
        | .ok (key, c) => .ok (some key, c)
      else .error (c.faultNext .keyNotString)
    else if byte = comma then
      let c := (c.drop 1).skipBlanks
      match c.rest with
      | [] => .error (c.faultNext .endInValue)
      | byte :: _ =>
        if byte = quotationMark then
          match readString (c.drop 1) with
          | .error fault => .error fault
          | .ok (key, c) => .ok (some key, c)
        else if byte = Bracket.object.closing then .error (c.faultNext .trailingComma)
        else .error (c.faultNext .keyNotString)
    else .error (c.faultNext .expectedObjectCommaOrEnd)

def keyLength (key : Option String) : Nat :=
  if key.isSome then 1 else 0

theorem nextKey_length_le {first : Bool} {key : Option String} {c c' : Cursor}
    (next : nextKey first c = .ok (key, c')) :
    c'.rest.length + keyLength key ≤ c.rest.length := by
  have blanks := c.skipBlanks_length_le
  unfold nextKey at next
  dsimp only at next
  split at next
  · cases next
  · rename_i found
    split at next
    · cases next
      simpa [keyLength] using blanks
    · split at next
      · split at next
        · split at next
          · cases next
          · rename_i text
            have shorter := readString_length_lt text
            cases next
            simp [found, keyLength] at shorter blanks ⊢
            omega
        · cases next
      · split at next
        · have again := (c.skipBlanks.drop 1).skipBlanks_length_le
          simp at again
          split at next
          · cases next
          · rename_i second
            split at next
            · split at next
              · cases next
              · rename_i text
                have shorter := readString_length_lt text
                cases next
                simp [second, keyLength] at shorter again ⊢
                omega
            · split at next <;> cases next
        · cases next

def skipMember (c : Cursor) : Except Fault Cursor :=
  match readColon c with
  | .error fault => .error fault
  | .ok c => skipValue c

theorem skipMember_length_le {c c' : Cursor} (read : skipMember c = .ok c') :
    c'.rest.length ≤ c.rest.length := by
  unfold skipMember at read
  split at read
  · cases read
  · rename_i mark
    exact Nat.le_trans (skip_length_le read) (Nat.le_of_lt (readColon_length_lt mark))

def readMember {σ : Type} (field : Field σ) (draft : σ) (c : Cursor) : Except Fault (σ × Cursor) :=
  match readColon c with
  | .error fault => .error fault
  | .ok c => (field.fill draft).run c

theorem readMember_length_le {σ : Type} {field : Field σ} {draft result : σ} {c c' : Cursor}
    (read : readMember field draft c = .ok (result, c')) : c'.rest.length ≤ c.rest.length := by
  unfold readMember at read
  split at read
  · cases read
  · rename_i mark
    exact Nat.le_trans (Nat.le_of_lt ((field.fill draft).advances read))
      (Nat.le_of_lt (readColon_length_lt mark))

variable {σ α : Type}

/-- The members of an object from here up to its closing bracket. A key that comes a second time
stops the reading. -/
def RecordForm.readMembers (form : RecordForm σ α) (first : Bool) (draft : σ) (c : Cursor) :
    Except Fault (Except Complaint α × Cursor) :=
  match _next : nextKey first c with
  | .error fault => .error fault
  | .ok (none, c) => .ok (form.finish draft, c)
  | .ok (some key, start) =>
    match form.fields.find? (·.name = key) with
    | none =>
      match _value : skipMember start with
      | .error fault => .error fault
      | .ok after => form.readMembers false draft after
    | some field =>
      if field.filled draft then .ok (.error (.duplicateField field.name), start)
      else
        match _value : readMember field draft start with
        | .error fault => .error fault
        | .ok (draft, after) => form.readMembers false draft after
termination_by c.rest.length
decreasing_by
  all_goals
    have key := nextKey_length_le _next
    simp only [keyLength, Option.isSome_some, if_true] at key
    try have value := skipMember_length_le _value
    try have value := readMember_length_le _value
    omega

theorem RecordForm.readMembers_length_le {form : RecordForm σ α} {first : Bool} {draft : σ}
    {outcome : Except Complaint α} {c c' : Cursor}
    (read : form.readMembers first draft c = .ok (outcome, c')) :
    c'.rest.length ≤ c.rest.length := by
  fun_induction RecordForm.readMembers form first draft c
  case case1 | case3 | case6 => cases read
  case case2 next =>
    cases read
    exact Nat.le_trans (Nat.le_add_right _ _) (nextKey_length_le next)
  case case5 next _ _ _ =>
    cases read
    exact Nat.le_trans (Nat.le_add_right _ _) (nextKey_length_le next)
  case case4 next _ _ value ih =>
    exact Nat.le_trans (ih read) (Nat.le_trans (skipMember_length_le value)
      (Nat.le_trans (Nat.le_add_right _ _) (nextKey_length_le next)))
  case case7 next _ _ _ _ _ value ih =>
    exact Nat.le_trans (ih read) (Nat.le_trans (readMember_length_le value)
      (Nat.le_trans (Nat.le_add_right _ _) (nextKey_length_le next)))

def RecordForm.readPositions (form : RecordForm σ α) (first : Bool) (index : Nat) (draft : σ)
    (c : Cursor) : List (Field σ) → Except Fault (Except Complaint α × Cursor)
  | [] => .ok (form.finish draft, c)
  | field :: fields =>
    match nextElement first c with
    | .error fault => .error fault
    | .ok (false, c) =>
      if field.required then
        .ok (.error (.wrongLength index
          (form.title ++ " with " ++ form.fields.length.repr ++ " elements")), c)
      else form.readPositions first (index + 1) draft c fields
    | .ok (true, c) =>
      match (field.fill draft).run c with
      | .error fault => .error fault
      | .ok (draft, c) => form.readPositions false (index + 1) draft c fields

theorem RecordForm.readPositions_length_le {form : RecordForm σ α} {first : Bool} {index : Nat}
    {draft : σ} {fields : List (Field σ)} {outcome : Except Complaint α} {c c' : Cursor}
    (read : form.readPositions first index draft c fields = .ok (outcome, c')) :
    c'.rest.length ≤ c.rest.length := by
  induction fields generalizing first index draft c with
  | nil =>
    cases read
    exact Nat.le_refl _
  | cons field fields ih =>
    rw [RecordForm.readPositions] at read
    split at read
    · cases read
    · rename_i next
      split at read
      · cases read
        exact nextElement_length_le next
      · exact Nat.le_trans (ih read) (nextElement_length_le next)
    · rename_i next
      split at read
      · cases read
      · rename_i value
        exact Nat.le_trans (ih read) (Nat.le_trans
          (Nat.le_of_lt ((field.fill draft).advances value)) (nextElement_length_le next))

def RecordForm.reader (form : RecordForm σ α) : Reader α :=
  .ofFirst
    (fun byte c =>
      if byte = openList then
        match form.readPositions true 0 form.blank (c.drop 1) form.fields with
        | .error fault => .error fault
        | .ok (outcome, c) => settle outcome (closeList c)
      else if byte = openObject then
        match form.readMembers true form.blank (c.drop 1) with
        | .error fault => .error fault
        | .ok (outcome, c) => settle outcome (closeObject c)
      else .error (wrongKind form.title c))
    (by
      intro byte rest c c' value found read
      split at read
      · split at read
        · cases read
        · rename_i after inside
          have inside := RecordForm.readPositions_length_le inside
          have close := closeList_length_le after
          rw [(settle_eq_ok read).2] at close
          simp [found] at inside close ⊢
          omega
      · split at read
        · split at read
          · cases read
          · rename_i after inside
            have inside := RecordForm.readMembers_length_le inside
            have close := closeObject_length_le after
            rw [(settle_eq_ok read).2] at close
            simp [found] at inside close ⊢
            omega
        · cases read)

def Reader.readDocument {α : Type} (reader : Reader α) (feed : Feed) (document : List UInt8) :
    Except Fault α :=
  match reader.run (.start feed document) with
  | .error fault => .error fault
  | .ok (value, c) =>
    let c := c.skipBlanks
    if c.rest.isEmpty then .ok value else .error (c.faultNext .trailingCharacters)

end HeapGraph.Json

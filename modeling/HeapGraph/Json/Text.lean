import HeapGraph.Json.Cursor
import HeapGraph.Text.Hex
import HeapGraph.Text.Utf8

/-!
Strings of a JSON document, from behind the opening quotation mark to behind the closing one, and
the fixed words.

A string that is wanted is decoded, and has to be UTF-8 with surrogates in pairs. In a string that is
skipped only the grammar counts. Either way a slice is scanned for the next byte that does not stand
for itself, and of a stream one byte is taken after the other.
-/

namespace HeapGraph.Json

def quotationMark : UInt8 := 0x22
def backslash : UInt8 := 0x5C
def letterU : UInt8 := 0x75

def readLiteral : (word : List UInt8) → Cursor → Except Fault Cursor
  | [], c => .ok c
  | byte :: word, c =>
    match c.rest with
    | [] => .error (c.faultHere .endInValue)
    | found :: _ =>
      if found = byte then readLiteral word (c.drop 1)
      else .error ((c.drop 1).faultHere .expectedLiteral)

theorem readLiteral_length_le {word : List UInt8} {c c' : Cursor}
    (read : readLiteral word c = .ok c') : c'.rest.length ≤ c.rest.length := by
  induction word generalizing c with
  | nil => cases read; exact Nat.le_refl _
  | cons byte word ih =>
    rw [readLiteral] at read
    split at read
    · cases read
    · split at read
      · have := ih read
        simp at this
        omega
      · cases read

def hexUnit? (first second third last : UInt8) : Option Nat :=
  match Text.hexDigit? first, Text.hexDigit? second, Text.hexDigit? third, Text.hexDigit? last with
  | some p, some q, some r, some s => some (((p * 16 + q) * 16 + r) * 16 + s)
  | _, _, _, _ => none

/-- Four hexadecimal digits. In a slice they are looked at together. -/
def Slice.readHex (s : Slice) : Except Fault (Nat × Slice) :=
  match s.rest with
  | first :: second :: third :: last :: _ =>
    match hexUnit? first second third last with
    | some unit => .ok (unit, s.drop 4)
    | none => .error ((s.drop 4).faultHere .invalidEscape)
  | short => .error ((s.drop short.length).faultHere .endInString)

def Stream.readByte (s : Stream) : Except Fault (UInt8 × Stream) :=
  match s.next? with
  | some found => .ok found
  | none => .error (s.fault .endInString)

/-- Four hexadecimal digits. In a stream they have to be taken before they are looked at. -/
def Stream.readHex (s : Stream) : Except Fault (Nat × Stream) := do
  let (first, s) ← s.readByte
  let (second, s) ← s.readByte
  let (third, s) ← s.readByte
  let (last, s) ← s.readByte
  match hexUnit? first second third last with
  | some unit => return (unit, s)
  | none => throw (s.fault .invalidEscape)

def readHex : Cursor → Except Fault (Nat × Cursor)
  | .slice s => s.readHex.map fun (unit, s) => (unit, .slice s)
  | .stream s => s.readHex.map fun (unit, s) => (unit, .stream s)

theorem Stream.readByte_of_nil {s : Stream} (count : Nat) (ended : s.rest.drop count = []) :
    (s.drop count).readByte = .error ((s.drop count).fault .endInString) := by
  have first := (s.drop count).next?_eq.1
  rw [s.drop_rest, ended] at first
  rw [readByte, Option.map_eq_none_iff.mp first]

theorem Stream.readByte_of_cons {s : Stream} {byte : UInt8} {rest : List UInt8} (count : Nat)
    (found : s.rest.drop count = byte :: rest) :
    (s.drop count).readByte = .ok (byte, s.drop (count + 1)) := by
  have first := (s.drop count).next?_eq.1
  rw [s.drop_rest, found] at first
  obtain ⟨next, taken, rfl⟩ := Option.map_eq_some_iff.mp first
  rw [readByte, taken, ← s.drop_drop, drop, taken]
  rfl

theorem readHex_eq (c : Cursor) :
    readHex c = match c.rest with
      | first :: second :: third :: last :: _ =>
        match hexUnit? first second third last with
        | some unit => .ok (unit, c.drop 4)
        | none => .error ((c.drop 4).faultHere .invalidEscape)
      | short => .error ((c.drop short.length).faultHere .endInString) := by
  cases c with
  | slice s =>
    simp only [readHex, Slice.readHex, Cursor.rest]
    split
    · split <;> rfl
    · rfl
  | stream s =>
    simp only [readHex, Stream.readHex, Cursor.rest]
    rcases found : s.rest with _ | ⟨p, _ | ⟨q, _ | ⟨r, _ | ⟨t, rest⟩⟩⟩⟩
    · have ended : s.readByte = .error _ := s.readByte_of_nil 0 found
      rw [ended]
      rfl
    · have first : s.readByte = .ok _ := s.readByte_of_cons 0 found
      have ended := s.readByte_of_nil 1 (by rw [found]; rfl)
      simp only [first, ended, bind, Except.bind]
      rfl
    · have first : s.readByte = .ok _ := s.readByte_of_cons 0 found
      have second := s.readByte_of_cons 1 (by rw [found]; rfl)
      have ended := s.readByte_of_nil 2 (by rw [found]; rfl)
      simp only [first, second, ended, bind, Except.bind]
      rfl
    · have first : s.readByte = .ok _ := s.readByte_of_cons 0 found
      have second := s.readByte_of_cons 1 (by rw [found]; rfl)
      have third := s.readByte_of_cons 2 (by rw [found]; rfl)
      have ended := s.readByte_of_nil 3 (by rw [found]; rfl)
      simp only [first, second, third, ended, bind, Except.bind]
      rfl
    · have first : s.readByte = .ok _ := s.readByte_of_cons 0 found
      have second := s.readByte_of_cons 1 (by rw [found]; rfl)
      have third := s.readByte_of_cons 2 (by rw [found]; rfl)
      have last := s.readByte_of_cons 3 (by rw [found]; rfl)
      simp only [first, second, third, last, bind, Except.bind]
      cases hexUnit? p q r t <;> rfl

theorem readHex_rest {c c' : Cursor} {unit : Nat} (read : readHex c = .ok (unit, c')) :
    c'.rest = c.rest.drop 4 := by
  rw [readHex_eq] at read
  split at read
  · split at read
    · cases read
      exact c.drop_rest 4
    · cases read
  · cases read

def shortEscape? (byte : UInt8) : Option UInt8 :=
  if byte = quotationMark then some quotationMark
  else if byte = backslash then some backslash
  else if byte = 0x2F then some 0x2F
  else if byte = 0x62 then some 0x08
  else if byte = 0x66 then some 0x0C
  else if byte = 0x6E then some 0x0A
  else if byte = 0x72 then some 0x0D
  else if byte = 0x74 then some 0x09
  else none

def isHighSurrogate (unit : Nat) : Bool := 0xD800 ≤ unit && unit ≤ 0xDBFF
def isLowSurrogate (unit : Nat) : Bool := 0xDC00 ≤ unit && unit ≤ 0xDFFF

def readBetween (byte : UInt8) (c : Cursor) : Except Fault Cursor :=
  match c.rest with
  | [] => .error (c.faultHere .endInString)
  | found :: _ =>
    if found = byte then .ok (c.drop 1) else .error ((c.drop 1).faultHere .unpairedSurrogate)

theorem readBetween_rest {byte : UInt8} {c c' : Cursor} (read : readBetween byte c = .ok c') :
    c'.rest = c.rest.drop 1 := by
  unfold readBetween at read
  split at read
  · cases read
  · split at read
    · cases read
      exact c.drop_rest 1
    · cases read

def readUnicode (c : Cursor) : Except Fault (Char × Cursor) :=
  match readHex c with
  | .error fault => .error fault
  | .ok (unit, c) =>
    if isLowSurrogate unit then .error (c.faultHere .loneSurrogate)
    else if isHighSurrogate unit then
      match readBetween backslash c with
      | .error fault => .error fault
      | .ok c =>
        match readBetween letterU c with
        | .error fault => .error fault
        | .ok c =>
          match readHex c with
          | .error fault => .error fault
          | .ok (low, c) =>
            if isLowSurrogate low then
              .ok (Char.ofNat ((unit - 0xD800) * 0x400 + (low - 0xDC00) + 0x10000), c)
            else .error (c.faultHere .loneSurrogate)
    else .ok (Char.ofNat unit, c)

theorem readUnicode_length_le {c c' : Cursor} {char : Char} (read : readUnicode c = .ok (char, c')) :
    c'.rest.length ≤ c.rest.length := by
  unfold readUnicode at read
  split at read
  · cases read
  · rename_i hex
    have hexRest := readHex_rest hex
    split at read
    · cases read
    · split at read
      · split at read
        · cases read
        · rename_i mark
          have markRest := readBetween_rest mark
          split at read
          · cases read
          · rename_i letter
            have letterRest := readBetween_rest letter
            split at read
            · cases read
            · rename_i second
              have secondRest := readHex_rest second
              split at read
              · simp only [Except.ok.injEq, Prod.mk.injEq] at read
                simp [← read.2, secondRest, letterRest, markRest, hexRest]
              · cases read
      · cases read
        simp [hexRest]

def readEscape (c : Cursor) : Except Fault (List UInt8 × Cursor) :=
  match c.rest with
  | [] => .error (c.faultHere .endInString)
  | byte :: _ =>
    let next := c.drop 1
    match shortEscape? byte with
    | some meant => .ok ([meant], next)
    | none =>
      if byte = letterU then
        match readUnicode next with
        | .error fault => .error fault
        | .ok (char, c) => .ok (String.utf8EncodeChar char, c)
      else .error (next.faultHere .invalidEscape)

theorem readEscape_length_le {c c' : Cursor} {bytes : List UInt8}
    (read : readEscape c = .ok (bytes, c')) : c'.rest.length ≤ c.rest.length := by
  unfold readEscape at read
  split at read
  · cases read
  · dsimp only at read
    split at read
    · cases read
      simp
    · split at read
      · split at read
        · cases read
        · rename_i unicode
          have shorter := readUnicode_length_le unicode
          cases read
          simp at shorter
          omega
      · cases read

def isPlain (byte : UInt8) : Bool :=
  byte != quotationMark && byte != backslash && !(byte < 0x20)

/-- The bytes of a string of a slice up to its closing quotation mark, after the bytes `before` (last
one first). Plain bytes are taken over as far as they go. -/
def readRuns (before : List UInt8) (c : Cursor) : Except Fault (List UInt8 × Cursor) :=
  let run := c.rest.takeWhile isPlain
  let next := c.drop run.length
  match _found : next.rest with
  | [] => .error (next.faultHere .endInString)
  | byte :: _ =>
    if byte = quotationMark then .ok ((run.reverse ++ before).reverse, next.drop 1)
    else if byte = backslash then
      match _escape : readEscape (next.drop 1) with
      | .error fault => .error fault
      | .ok (bytes, after) => readRuns (bytes.reverse ++ (run.reverse ++ before)) after
    else .error ((next.drop 1).faultHere .controlCharacter)
termination_by c.rest.length
decreasing_by
  have shorter := readEscape_length_le _escape
  have tail := congrArg List.length _found
  simp only [next, Cursor.drop_rest, List.length_drop, List.length_cons] at shorter tail ⊢
  omega

/-- The bytes of a string of a stream up to its closing quotation mark, after the bytes `before` (last
one first). Each byte is taken before it is looked at. -/
def readBytes (before : List UInt8) (c : Cursor) : Except Fault (List UInt8 × Cursor) :=
  match _found : c.rest with
  | [] => .error (c.faultHere .endInString)
  | byte :: _ =>
    if byte = quotationMark then .ok (before.reverse, c.drop 1)
    else if byte = backslash then
      match _escape : readEscape (c.drop 1) with
      | .error fault => .error fault
      | .ok (bytes, next) => readBytes (bytes.reverse ++ before) next
    else if byte < 0x20 then .error ((c.drop 1).faultHere .controlCharacter)
    else readBytes (byte :: before) (c.drop 1)
termination_by c.rest.length
decreasing_by
  · have shorter := readEscape_length_le _escape
    simp [_found] at shorter ⊢
    omega
  · simp [_found]

def readStringBytes (c : Cursor) : Except Fault (List UInt8 × Cursor) :=
  match c with
  | .slice _ => readRuns [] c
  | .stream _ => readBytes [] c

theorem readRuns_length_lt {before bytes : List UInt8} {c c' : Cursor}
    (read : readRuns before c = .ok (bytes, c')) : c'.rest.length < c.rest.length := by
  fun_induction readRuns before c with
  | case1 => cases read
  | case2 _ _ _ next _ found =>
    have tail := congrArg List.length found
    cases read
    simp only [next, Cursor.drop_rest, List.length_drop, List.length_cons] at tail ⊢
    omega
  | case3 => cases read
  | case4 =>
    rename_i next _ _ _ escape found _ ih
    have tail := congrArg List.length found
    have shorter := readEscape_length_le escape
    have := ih read
    simp only [next, Cursor.drop_rest, List.length_drop, List.length_cons] at shorter tail
    omega
  | case5 => cases read

theorem readBytes_length_lt {before bytes : List UInt8} {c c' : Cursor}
    (read : readBytes before c = .ok (bytes, c')) : c'.rest.length < c.rest.length := by
  fun_induction readBytes before c with
  | case1 => cases read
  | case2 =>
    rename_i found
    cases read
    simp [found]
  | case3 => cases read
  | case4 =>
    rename_i escape found _ ih
    have shorter := readEscape_length_le escape
    have := ih read
    simp [found] at shorter ⊢
    omega
  | case5 => cases read
  | case6 _ _ _ _ found _ _ _ ih =>
    have := ih read
    simp [found] at this ⊢
    omega

theorem readStringBytes_length_lt {bytes : List UInt8} {c c' : Cursor}
    (read : readStringBytes c = .ok (bytes, c')) : c'.rest.length < c.rest.length := by
  cases c with
  | slice s => exact readRuns_length_lt read
  | stream s => exact readBytes_length_lt read

/-- The text of a string. One that is not UTF-8 is reported as far before its end as there are bytes
of the decoded string that could not be read. -/
def readString (c : Cursor) : Except Fault (String × Cursor) :=
  match readStringBytes c with
  | .error fault => .error fault
  | .ok (bytes, c) =>
    match Text.ofUtf8? bytes with
    | some text => .ok (text, c)
    | none =>
      .error (c.faultBefore (bytes.length - Text.utf8PrefixLength bytes) .invalidCodePoint)

theorem readString_length_lt {text : String} {c c' : Cursor}
    (read : readString c = .ok (text, c')) : c'.rest.length < c.rest.length := by
  unfold readString at read
  split at read
  · cases read
  · rename_i bytes
    split at read
    · cases read
      exact readStringBytes_length_lt bytes
    · cases read

/-- Takes an escape in a string that is skipped: surrogates need no partner there. -/
def skipEscape (c : Cursor) : Except Fault Cursor :=
  match c.rest with
  | [] => .error (c.faultHere .endInString)
  | byte :: _ =>
    let next := c.drop 1
    if (shortEscape? byte).isSome then .ok next
    else if byte = letterU then
      match readHex next with
      | .error fault => .error fault
      | .ok (_, c) => .ok c
    else .error (next.faultHere .invalidEscape)

theorem skipEscape_length_le {c c' : Cursor} (read : skipEscape c = .ok c') :
    c'.rest.length ≤ c.rest.length := by
  unfold skipEscape at read
  split at read
  · cases read
  · dsimp only at read
    split at read
    · cases read
      simp
    · split at read
      · split at read
        · cases read
        · rename_i hex
          cases read
          simp [readHex_rest hex]
      · cases read

def skipRuns (c : Cursor) : Except Fault Cursor :=
  let next := c.drop (c.rest.takeWhile isPlain).length
  match _found : next.rest with
  | [] => .error (next.faultHere .endInString)
  | byte :: _ =>
    if byte = quotationMark then .ok (next.drop 1)
    else if byte = backslash then
      match _escape : skipEscape (next.drop 1) with
      | .error fault => .error fault
      | .ok after => skipRuns after
    else .error (next.faultHere .controlCharacter)
termination_by c.rest.length
decreasing_by
  have shorter := skipEscape_length_le _escape
  have tail := congrArg List.length _found
  simp only [next, Cursor.drop_rest, List.length_drop, List.length_cons] at shorter tail ⊢
  omega

def skipBytes (c : Cursor) : Except Fault Cursor :=
  match _found : c.rest with
  | [] => .error (c.faultHere .endInString)
  | byte :: _ =>
    if byte = quotationMark then .ok (c.drop 1)
    else if byte = backslash then
      match _escape : skipEscape (c.drop 1) with
      | .error fault => .error fault
      | .ok next => skipBytes next
    else if byte < 0x20 then .error ((c.drop 1).faultHere .controlCharacter)
    else skipBytes (c.drop 1)
termination_by c.rest.length
decreasing_by
  · have shorter := skipEscape_length_le _escape
    simp [_found] at shorter ⊢
    omega
  · simp [_found]

def skipString (c : Cursor) : Except Fault Cursor :=
  match c with
  | .slice _ => skipRuns c
  | .stream _ => skipBytes c

theorem skipRuns_length_lt {c c' : Cursor} (read : skipRuns c = .ok c') :
    c'.rest.length < c.rest.length := by
  fun_induction skipRuns c with
  | case1 => cases read
  | case2 _ next _ found =>
    have tail := congrArg List.length found
    cases read
    simp only [next, Cursor.drop_rest, List.length_drop, List.length_cons] at tail ⊢
    omega
  | case3 => cases read
  | case4 =>
    rename_i next _ _ escape found _ ih
    have tail := congrArg List.length found
    have shorter := skipEscape_length_le escape
    have := ih read
    simp only [next, Cursor.drop_rest, List.length_drop, List.length_cons] at shorter tail
    omega
  | case5 => cases read

theorem skipBytes_length_lt {c c' : Cursor} (read : skipBytes c = .ok c') :
    c'.rest.length < c.rest.length := by
  fun_induction skipBytes c with
  | case1 => cases read
  | case2 =>
    rename_i found
    cases read
    simp [found]
  | case3 => cases read
  | case4 =>
    rename_i escape found _ ih
    have shorter := skipEscape_length_le escape
    have := ih read
    simp [found] at shorter ⊢
    omega
  | case5 => cases read
  | case6 _ _ _ found _ _ _ ih =>
    have := ih read
    simp [found] at this ⊢
    omega

theorem skipString_length_lt {c c' : Cursor} (read : skipString c = .ok c') :
    c'.rest.length < c.rest.length := by
  cases c with
  | slice s => exact skipRuns_length_lt read
  | stream s => exact skipBytes_length_lt read

end HeapGraph.Json

import HeapGraph.Proofs.Json.Layout
import HeapGraph.Proofs.Json.Scanning

/-!
Strings in a JSON text. Whichever way each character is written, a string that is read is the text it
stands for, and a string that is skipped is passed over to the same place.
-/

namespace HeapGraph.Json

section Bytes

theorem plainByte_of_toNat {byte : UInt8} (low : 0x20 ≤ byte.toNat) (mark : byte.toNat ≠ 0x22)
    (slash : byte.toNat ≠ 0x5C) : PlainByte byte := by
  refine ⟨?_, ?_, ?_⟩
  · rintro rfl
    exact mark rfl
  · rintro rfl
    exact slash rfl
  · intro less
    have below : byte.toNat < 0x20 := UInt8.lt_iff_toNat_lt.mp less
    omega

theorem toNat_ofNat_of_lt {value : Nat} (small : value < 256) : (UInt8.ofNat value).toNat = value := by
  rw [UInt8.toNat_ofNat', Nat.mod_eq_of_lt small]

theorem plainByte_utf8 {c : Char} (low : 0x20 ≤ c.toNat) (mark : c ≠ '"') (slash : c ≠ '\\') :
    ∀ byte ∈ String.utf8EncodeChar c, PlainByte byte := by
  have notMark : c.val.toNat ≠ 0x22 := fun same => mark (Char.toNat_inj.mp same)
  have notSlash : c.val.toNat ≠ 0x5C := fun same => slash (Char.toNat_inj.mp same)
  have continued (value : Nat) (high : 0x80 ≤ value) (small : value < 256) :
      PlainByte (UInt8.ofNat value) := by
    apply plainByte_of_toNat <;> rw [toNat_ofNat_of_lt small] <;> omega
  change 0x20 ≤ c.val.toNat at low
  unfold String.utf8EncodeChar
  dsimp only
  split
  · intro byte member
    rw [List.mem_singleton] at member
    subst member
    apply plainByte_of_toNat <;> rw [toNat_ofNat_of_lt (by omega)] <;> omega
  · split
    · simp only [List.forall_mem_cons, List.not_mem_nil, false_implies, implies_true, and_true]
      exact ⟨continued _ (by omega) (by omega), continued _ (by omega) (by omega)⟩
    · split
      · simp only [List.forall_mem_cons, List.not_mem_nil, false_implies, implies_true, and_true]
        exact ⟨continued _ (by omega) (by omega), continued _ (by omega) (by omega),
          continued _ (by omega) (by omega)⟩
      · simp only [List.forall_mem_cons, List.not_mem_nil, false_implies, implies_true, and_true]
        exact ⟨continued _ (by omega) (by omega), continued _ (by omega) (by omega),
          continued _ (by omega) (by omega), continued _ (by omega) (by omega)⟩

theorem hexDigit?_of {value : Nat} {byte : UInt8} (digit : HexDigit value byte) :
    Text.hexDigit? byte = some value := by
  obtain ⟨small, written⟩ := digit
  have both : ∀ value < 16, Text.hexDigit? (ascii (Nat.digitChar value)) = some value ∧
      Text.hexDigit? (ascii (Nat.digitChar value).toUpper) = some value := by decide
  rcases written with rfl | rfl
  · exact (both value small).1
  · exact (both value small).2

theorem shortEscape?_of {letter c : Char} (listed : (letter, c) ∈ shortEscapes) :
    shortEscape? (ascii letter) = some (ascii c) ∧ String.utf8EncodeChar c = [ascii c] := by
  have all : ∀ entry ∈ shortEscapes, shortEscape? (ascii entry.1) = some (ascii entry.2) ∧
      String.utf8EncodeChar entry.2 = [ascii entry.2] := by decide
  exact all (letter, c) listed

end Bytes

variable {c : Cursor} {before rest : List UInt8} {byte : UInt8}

section Escapes

theorem readHex_of {unit : Nat} {digits : List UInt8} (written : CodeUnit unit digits)
    (found : c.rest = digits ++ rest) :
    ∃ c', readHex c = .ok (unit, c') ∧ c'.rest = rest := by
  cases written with
  | mk first second third last =>
      refine ⟨c.drop 4, ?_, by simp [found]⟩
      rw [readHex_eq, found]
      simp only [List.cons_append, List.nil_append, hexUnit?, hexDigit?_of first,
        hexDigit?_of second, hexDigit?_of third, hexDigit?_of last]

theorem readBetween_of (found : c.rest = byte :: rest) :
    ∃ c', readBetween byte c = .ok c' ∧ c'.rest = rest := by
  refine ⟨c.drop 1, ?_, by simp [found]⟩
  unfold readBetween
  rw [found]
  simp

theorem not_surrogate (char : Char) :
    isLowSurrogate char.toNat = false ∧ isHighSurrogate char.toNat = false := by
  have valid : char.toNat < 0xD800 ∨ (0xDFFF < char.toNat ∧ char.toNat < 0x110000) := char.valid
  simp only [isLowSurrogate, isHighSurrogate, Bool.and_eq_false_iff, decide_eq_false_iff_not]
  omega

theorem readUnicode_unit {char : Char} {digits : List UInt8}
    (written : CodeUnit char.toNat digits) (found : c.rest = digits ++ rest) :
    ∃ c', readUnicode c = .ok (char, c') ∧ c'.rest = rest := by
  obtain ⟨c', hex, left⟩ := readHex_of written found
  obtain ⟨low, high⟩ := not_surrogate char
  refine ⟨c', ?_, left⟩
  unfold readUnicode
  rw [hex]
  simp [low, high, Char.ofNat_toNat]

theorem readUnicode_pair {char : Char} {high low : Nat} {highDigits lowDigits : List UInt8}
    (first : CodeUnit high highDigits) (second : CodeUnit low lowDigits) (highFrom : 0xD800 ≤ high)
    (highTo : high ≤ 0xDBFF) (lowFrom : 0xDC00 ≤ low) (lowTo : low ≤ 0xDFFF)
    (meant : char.toNat = 0x10000 + (high - 0xD800) * 0x400 + (low - 0xDC00))
    (found : c.rest = highDigits ++ (word "\\u" ++ (lowDigits ++ rest))) :
    ∃ c', readUnicode c = .ok (char, c') ∧ c'.rest = rest := by
  obtain ⟨behindHigh, readHigh, foundMark⟩ := readHex_of first found
  have mark : behindHigh.rest = backslash :: letterU :: (lowDigits ++ rest) := foundMark
  obtain ⟨behindMark, readMark, foundLetter⟩ := readBetween_of mark
  obtain ⟨behindLetter, readLetter, foundLow⟩ := readBetween_of foundLetter
  obtain ⟨c', readLow, left⟩ := readHex_of second foundLow
  have notLow : isLowSurrogate high = false := by simp [isLowSurrogate]; omega
  have isHigh : isHighSurrogate high = true := by simp [isHighSurrogate]; omega
  have isLow : isLowSurrogate low = true := by simp [isLowSurrogate]; omega
  have same : Char.ofNat ((high - 0xD800) * 0x400 + (low - 0xDC00) + 0x10000) = char := by
    have value : (high - 0xD800) * 0x400 + (low - 0xDC00) + 0x10000 = char.toNat := by omega
    rw [value, Char.ofNat_toNat]
  refine ⟨c', ?_, left⟩
  unfold readUnicode
  rw [readHigh]
  simp only [notLow, isHigh, Bool.false_eq_true, if_false, if_true, readMark, readLetter, readLow,
    isLow, same]

theorem readEscape_short {letter char : Char} (listed : (letter, char) ∈ shortEscapes)
    (found : c.rest = ascii letter :: rest) :
    ∃ c', readEscape c = .ok (String.utf8EncodeChar char, c') ∧ c'.rest = rest := by
  obtain ⟨meant, encoded⟩ := shortEscape?_of listed
  refine ⟨c.drop 1, ?_, by simp [found]⟩
  unfold readEscape
  rw [found]
  simp only [meant, encoded]

theorem readEscape_unicode {char : Char} {c' : Cursor} (found : c.rest = letterU :: rest)
    (read : readUnicode (c.drop 1) = .ok (char, c')) :
    readEscape c = .ok (String.utf8EncodeChar char, c') := by
  have long : shortEscape? letterU = none := by decide
  unfold readEscape
  rw [found]
  simp only [long, if_true, read]

theorem skipEscape_short {letter char : Char} (listed : (letter, char) ∈ shortEscapes)
    (found : c.rest = ascii letter :: rest) :
    ∃ c', skipEscape c = .ok c' ∧ c'.rest = rest := by
  obtain ⟨meant, _⟩ := shortEscape?_of listed
  refine ⟨c.drop 1, ?_, by simp [found]⟩
  unfold skipEscape
  rw [found]
  simp [meant]

theorem skipEscape_unit {unit : Nat} {digits : List UInt8} (written : CodeUnit unit digits)
    (found : c.rest = letterU :: (digits ++ rest)) :
    ∃ c', skipEscape c = .ok c' ∧ c'.rest = rest := by
  have behind : (c.drop 1).rest = digits ++ rest := by simp [found]
  obtain ⟨c', hex, left⟩ := readHex_of written behind
  have long : shortEscape? letterU = none := by decide
  refine ⟨c', ?_, left⟩
  unfold skipEscape
  rw [found]
  simp [long, hex]

end Escapes

section Reading

variable {taken : List UInt8}

theorem readBytes_letter (taken : List UInt8) {char : Char} {bytes : List UInt8} (letter : Letter char bytes)
    (found : c.rest = bytes ++ rest) :
    ∃ c', readBytes taken c =
      readBytes ((String.utf8EncodeChar char).reverse ++ taken) c' ∧ c'.rest = rest := by
  cases letter with
  | plain low mark slash =>
      exact ⟨_, readBytes_run taken (plainByte_utf8 low mark slash) found, by simp [found]⟩
  | @short sign _ listed =>
      have behind : (c.drop 1).rest = ascii sign :: rest := by rw [Cursor.drop_rest, found]; rfl
      obtain ⟨c', read, left⟩ := readEscape_short listed behind
      exact ⟨c', readBytes_escape found read, left⟩
  | @unit _ digits written =>
      have behind : ((c.drop 1).drop 1).rest = digits ++ rest := by simp [found, word]
      obtain ⟨c', unicode, left⟩ := readUnicode_unit written behind
      have read := readEscape_unicode (by rw [Cursor.drop_rest, found]; rfl) unicode
      exact ⟨c', readBytes_escape found read, left⟩
  | @pair _ _ _ high low first second highFrom highTo lowFrom lowTo meant =>
      have behind : ((c.drop 1).drop 1).rest = high ++ (word "\\u" ++ (low ++ rest)) := by
        simp [found, word]
      obtain ⟨c', unicode, left⟩ :=
        readUnicode_pair first second highFrom highTo lowFrom lowTo meant behind
      have read := readEscape_unicode (by rw [Cursor.drop_rest, found]; rfl) unicode
      exact ⟨c', readBytes_escape found read, left⟩

theorem readBytes_letters (taken : List UInt8) {chars : List Char} {bytes : List UInt8}
    (letters : Letters chars bytes) (found : c.rest = bytes ++ quotationMark :: rest) :
    ∃ c', readBytes taken c =
      .ok (taken.reverse ++ chars.flatMap String.utf8EncodeChar, c') ∧ c'.rest = rest := by
  induction letters generalizing c taken with
  | nil => exact ⟨c.drop 1, by simp [readBytes_end found], by simp [found]⟩
  | cons letter _ ih =>
      rw [List.append_assoc] at found
      obtain ⟨next, first, foundNext⟩ := readBytes_letter taken letter found
      obtain ⟨c', read, left⟩ := ih _ foundNext
      refine ⟨c', ?_, left⟩
      rw [first, read]
      simp

theorem utf8_ofList (chars : List Char) :
    Text.utf8 (String.ofList chars) = chars.flatMap String.utf8EncodeChar := by
  simp [Text.utf8, String.toByteArray_ofList, List.utf8Encode]

theorem readQuoted_of {text : String} {bytes : List UInt8} (quoted : Quoted text bytes)
    (found : c.rest = bytes ++ rest) : ∃ c', readQuoted c = .ok (text, c') ∧ c'.rest = rest := by
  cases quoted with
  | @mk inner letters =>
      have behind : (c.drop 1).rest = inner ++ quotationMark :: rest := by
        rw [Cursor.drop_rest, found, List.cons_append, List.append_assoc]
        rfl
      obtain ⟨c', read, left⟩ := readBytes_letters [] letters behind
      refine ⟨c', ?_, left⟩
      have decoded : Text.ofUtf8? (text.toList.flatMap String.utf8EncodeChar) = some text := by
        rw [← utf8_ofList, String.ofList_toList, Text.ofUtf8?_utf8]
      unfold readQuoted readString
      rw [readStringBytes_eq, read]
      simp [decoded]

end Reading

section Skipping

theorem skipBytes_unit {unit : Nat} {digits : List UInt8} (written : CodeUnit unit digits)
    (found : c.rest = word "\\u" ++ (digits ++ rest)) :
    ∃ c', skipBytes c = skipBytes c' ∧ c'.rest = rest := by
  have behind : (c.drop 1).rest = letterU :: (digits ++ rest) := by
    rw [Cursor.drop_rest, found]
    rfl
  obtain ⟨c', skipped, left⟩ := skipEscape_unit written behind
  exact ⟨c', skipBytes_escape found skipped, left⟩

theorem skipBytes_letter {char : Char} {bytes : List UInt8} (letter : Letter char bytes)
    (found : c.rest = bytes ++ rest) : ∃ c', skipBytes c = skipBytes c' ∧ c'.rest = rest := by
  cases letter with
  | plain low mark slash =>
      exact ⟨_, skipBytes_run (plainByte_utf8 low mark slash) found, by simp [found]⟩
  | @short sign _ listed =>
      have behind : (c.drop 1).rest = ascii sign :: rest := by rw [Cursor.drop_rest, found]; rfl
      obtain ⟨c', skipped, left⟩ := skipEscape_short listed behind
      exact ⟨c', skipBytes_escape found skipped, left⟩
  | unit written => exact skipBytes_unit written (by rw [found, List.append_assoc])
  | pair first second =>
      -- Each half of a pair is skipped as an escape of its own.
      obtain ⟨next, firstSkipped, foundNext⟩ := skipBytes_unit first
        (by rw [found, List.append_assoc, List.append_assoc])
      obtain ⟨c', secondSkipped, left⟩ := skipBytes_unit second
        (by rw [foundNext, List.append_assoc])
      exact ⟨c', firstSkipped.trans secondSkipped, left⟩

theorem skipBytes_letters {chars : List Char} {bytes : List UInt8}
    (letters : Letters chars bytes) (found : c.rest = bytes ++ quotationMark :: rest) :
    ∃ c', skipBytes c = .ok c' ∧ c'.rest = rest := by
  induction letters generalizing c with
  | nil => exact ⟨c.drop 1, skipBytes_end found, by simp [found]⟩
  | cons letter _ ih =>
      rw [List.append_assoc] at found
      obtain ⟨next, first, foundNext⟩ := skipBytes_letter letter found
      obtain ⟨c', skipped, left⟩ := ih foundNext
      exact ⟨c', first.trans skipped, left⟩

theorem skipString_of {text : String} {bytes : List UInt8} (quoted : Quoted text bytes)
    (found : c.rest = bytes ++ rest) :
    ∃ c', skipString (c.drop 1) = .ok c' ∧ c'.rest = rest := by
  cases quoted with
  | @mk inner letters =>
      have behind : (c.drop 1).rest = inner ++ quotationMark :: rest := by
        rw [Cursor.drop_rest, found, List.cons_append, List.append_assoc]
        rfl
      obtain ⟨c', skipped, left⟩ := skipBytes_letters letters behind
      exact ⟨c', (alike_of_causes (skipString_eq _)).1 c' skipped, left⟩

end Skipping

end HeapGraph.Json

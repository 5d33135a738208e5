import HeapGraph.Proofs.Json.Layout

/-!
Numbers in a JSON text. A number that is skipped is passed over as a whole. One that is read comes out
as a natural number exactly if it is written with digits only and 64 bits hold it.
-/

namespace HeapGraph.Json

section Digits

def Stops (rest : List UInt8) : Prop :=
  ∀ byte ∈ rest.head?, isDigit byte = false

def digitsFrom (value : Nat) (digits : List UInt8) : Nat :=
  digits.foldl (fun value byte => value * 10 + digitValue byte) value

theorem Digits.value_eq (digits : Digits) : digits.value = digitsFrom 0 digits.bytes :=
  rfl

theorem isDigit_iff {byte : UInt8} : isDigit byte = true ↔ ascii '0' ≤ byte ∧ byte ≤ ascii '9' := by
  simp only [isDigit, Bool.and_eq_true, decide_eq_true_eq]
  rfl

theorem Digits.isDigit (digits : Digits) : ∀ byte ∈ digits.bytes, isDigit byte = true :=
  fun byte member => isDigit_iff.mpr (digits.decimal byte member)

theorem Ends.stops {rest : List UInt8} (ends : Ends rest) : Stops rest := by
  intro byte first
  have apart : (word " \t\n\r,]\x7d").all (!Json.isDigit ·) = true := by decide
  simpa using List.all_eq_true.mp apart byte (ends byte first)

theorem nextIs_cons {c : Cursor} {byte : UInt8} {rest : List UInt8} (found : c.rest = byte :: rest)
    (test : UInt8 → Bool) : c.nextIs test = test byte := by
  simp [Cursor.nextIs, found]

theorem Stops.nextIs {c : Cursor} (stops : Stops c.rest) : c.nextIs Json.isDigit = false := by
  unfold Cursor.nextIs
  cases found : c.rest.head? with
  | none => rfl
  | some byte => exact stops byte found

theorem dropDigits_of {c : Cursor} {digits rest : List UInt8}
    (decimal : ∀ byte ∈ digits, Json.isDigit byte = true) (stops : Stops rest)
    (found : c.rest = digits ++ rest) : c.dropDigits.rest = rest := by
  rw [Cursor.dropDigits, Cursor.drop_rest, Cursor.drop_takeWhile_length, found,
    List.dropWhile_append_of_pos decimal]
  cases rest with
  | nil => rfl
  | cons byte rest => exact List.dropWhile_cons_of_neg (by simp [stops byte rfl])

theorem le_digitsFrom (value : Nat) (digits : List UInt8) : value ≤ digitsFrom value digits := by
  induction digits generalizing value with
  | nil => exact Nat.le_refl value
  | cons byte digits ih =>
      have rest := ih (value * 10 + digitValue byte)
      change value ≤ digitsFrom (value * 10 + digitValue byte) digits
      omega

theorem absorb_all {limit value : Nat} {digits rest : List UInt8}
    (decimal : ∀ byte ∈ digits, Json.isDigit byte = true) (stops : Stops rest)
    (fits : digitsFrom value digits ≤ limit) :
    absorb limit value (digits ++ rest) = (digitsFrom value digits, digits.length) := by
  induction digits generalizing value with
  | nil =>
      cases rest with
      | nil => rfl
      | cons byte rest => simp [absorb, stops byte rfl, digitsFrom]
  | cons byte digits ih =>
      have next : value * 10 + digitValue byte ≤ limit :=
        Nat.le_trans (le_digitsFrom (value * 10 + digitValue byte) digits) fits
      have digit := decimal byte List.mem_cons_self
      have more := ih (fun other member => decimal other (by simp [member])) fits
      rw [List.cons_append, absorb]
      simp only [digit, next, decide_true, Bool.and_self, if_true, more, List.length_cons]
      rfl

theorem absorb_part {limit value : Nat} {digits : List UInt8} (rest : List UInt8)
    (start : value ≤ limit) (large : limit < digitsFrom value digits) :
    (absorb limit value (digits ++ rest)).2 < digits.length := by
  induction digits generalizing value with
  | nil => exact absurd large (Nat.not_lt.mpr start)
  | cons byte digits ih =>
      rw [List.cons_append, absorb]
      dsimp only
      split
      · rename_i kept
        simp only [Bool.and_eq_true, decide_eq_true_eq] at kept
        have more := ih kept.2 large
        simpa using more
      · simp

end Digits

namespace Numeral

theorem exponentBytes_begins (numeral : Numeral) :
    numeral.exponentBytes = [] ∨
      ∃ exponent, numeral.exponent = some exponent ∧
        numeral.exponentBytes = exponent.mark :: (exponent.sign ++ exponent.digits.bytes) := by
  unfold exponentBytes
  cases numeral.exponent with
  | none => exact Or.inl rfl
  | some exponent => exact Or.inr ⟨exponent, rfl, rfl⟩

end Numeral

theorem Exponent.isExponentMark (exponent : Exponent) : isExponentMark exponent.mark = true :=
  List.all_eq_true.mp (by decide : (word "eE").all Json.isExponentMark = true) _ exponent.marked

variable {c : Cursor} {rest : List UInt8} {numeral : Numeral}

section Parts

theorem exponentMark_stops {byte : UInt8} (mark : isExponentMark byte = true) :
    isDigit byte = false ∧ byte ≠ point := by
  have marks : byte = 0x65 ∨ byte = 0x45 := by simpa [isExponentMark] using mark
  rcases marks with rfl | rfl <;> decide

theorem stops_behind_fraction (numeral : Numeral) (ends : Ends rest) :
    Stops (numeral.exponentBytes ++ rest) := by
  rcases numeral.exponentBytes_begins with none | ⟨exponent, _, some⟩
  · rw [none]
    exact ends.stops
  · rw [some]
    intro byte first
    rw [List.cons_append, List.head?_cons, Option.mem_some_iff] at first
    rw [← first]
    exact (exponentMark_stops exponent.isExponentMark).1

theorem stops_behind_whole (numeral : Numeral) (ends : Ends rest) :
    Stops (numeral.fractionBytes ++ (numeral.exponentBytes ++ rest)) := by
  unfold Numeral.fractionBytes
  cases numeral.fraction with
  | none => exact stops_behind_fraction numeral ends
  | some digits =>
      intro byte first
      rw [List.cons_append, List.head?_cons, Option.mem_some_iff] at first
      rw [← first]
      decide

end Parts

section Skipping

theorem skipExponent_of {exponent : Exponent} (ends : Ends rest)
    (found : c.rest = exponent.bytes ++ rest) :
    ∃ c', skipExponent c = .ok c' ∧ c'.rest = rest := by
  obtain ⟨digit, tail, same, range⟩ := exponent.digits.begins
  have isDigit := isDigit_iff.mpr range
  have signless : (digit = plus || digit = minus) = false := by
    simp only [Bool.or_eq_false_iff, decide_eq_false_iff_not]
    constructor
    · rintro rfl
      exact absurd isDigit (by decide)
    · rintro rfl
      exact absurd isDigit (by decide)
  -- Behind the sign, if there is one, come the digits and nothing else.
  have behind {next : Cursor} (left : next.rest = exponent.digits.bytes ++ rest) :
      next.nextIs Json.isDigit = true ∧ next.dropDigits.peek.rest = rest := by
    rw [same, List.cons_append] at left
    refine ⟨by rw [nextIs_cons left, isDigit], ?_⟩
    rw [Cursor.peek_rest]
    exact dropDigits_of exponent.digits.isDigit ends.stops (by rw [left, same, List.cons_append])
  unfold skipExponent
  dsimp only
  rcases exponent.signed with none | some
  · have left : (c.drop 1).peek.rest = exponent.digits.bytes ++ rest := by
      simp [found, Exponent.bytes, none]
    have noSign : (c.drop 1).peek.nextIs (fun byte => byte = plus || byte = minus) = false := by
      have first := left
      rw [same, List.cons_append] at first
      rw [nextIs_cons first, signless]
    simp only [noSign, Bool.false_eq_true, if_false]
    rw [if_pos (behind left).1]
    exact ⟨_, rfl, (behind left).2⟩
  · obtain ⟨sign, isSign, listed⟩ :
        ∃ sign, (sign = plus || sign = minus) = true ∧ exponent.sign = [sign] := by
      rcases some with positive | negative
      · exact ⟨plus, by decide, positive⟩
      · exact ⟨minus, by decide, negative⟩
    have first : (c.drop 1).peek.rest = sign :: (exponent.digits.bytes ++ rest) := by
      simp [found, Exponent.bytes, listed]
    have left : ((c.drop 1).peek.drop 1).rest = exponent.digits.bytes ++ rest := by
      rw [Cursor.drop_rest, first]
      rfl
    have hasSign : (c.drop 1).peek.nextIs (fun byte => byte = plus || byte = minus) = true := by
      rw [nextIs_cons first, isSign]
    simp only [hasSign, if_true]
    rw [if_pos (behind left).1]
    exact ⟨_, rfl, (behind left).2⟩

theorem skipFraction_of {digits : Digits} (ends : Ends rest)
    (found : c.rest = ascii '.' :: (digits.bytes ++ (numeral.exponentBytes ++ rest))) :
    ∃ c', skipFraction c = .ok c' ∧ c'.rest = rest := by
  obtain ⟨digit, tail, same, range⟩ := digits.begins
  have inside : (c.drop 1).rest = digits.bytes ++ (numeral.exponentBytes ++ rest) := by simp [found]
  have left : (c.drop 1).dropDigits.peek.rest = numeral.exponentBytes ++ rest := by
    rw [Cursor.peek_rest, dropDigits_of digits.isDigit (stops_behind_fraction numeral ends) inside]
  have first := inside
  rw [same, List.cons_append] at first
  unfold skipFraction
  dsimp only
  rw [nextIs_cons first, isDigit_iff.mpr range]
  simp only [Bool.not_true, Bool.false_eq_true, if_false]
  rcases numeral.exponentBytes_begins with none | ⟨exponent, _, some⟩
  · rw [none, List.nil_append] at left
    have stops : (c.drop 1).dropDigits.peek.nextIs isExponentMark = false := by
      rw [← left] at ends
      exact ends.nextIs isExponentMark (by decide)
    rw [if_neg (by simp [stops])]
    exact ⟨_, rfl, left⟩
  · rw [some, List.cons_append] at left
    rw [nextIs_cons left, if_pos exponent.isExponentMark]
    exact skipExponent_of ends (by rw [left, Exponent.bytes, List.cons_append, List.cons_append])

theorem skipAfterWhole_of (ends : Ends rest)
    (found : c.rest = numeral.fractionBytes ++ (numeral.exponentBytes ++ rest)) :
    ∃ c', skipAfterWhole c = .ok c' ∧ c'.rest = rest := by
  unfold skipAfterWhole
  cases fraction : numeral.fraction with
  | some digits =>
      have left : c.rest = ascii '.' :: (digits.bytes ++ (numeral.exponentBytes ++ rest)) := by
        rw [found, Numeral.fractionBytes, fraction, List.cons_append]
      rw [nextIs_cons left, if_pos (by decide)]
      exact skipFraction_of ends left
  | none =>
      have left : c.rest = numeral.exponentBytes ++ rest := by
        rw [found, Numeral.fractionBytes, fraction, List.nil_append]
      rcases numeral.exponentBytes_begins with none | ⟨exponent, _, some⟩
      · rw [none, List.nil_append] at left
        rw [← left] at ends
        have noPoint := ends.nextIs (fun byte => byte = point) (by decide)
        have noMark := ends.nextIs isExponentMark (by decide)
        rw [if_neg (by simp [noPoint]), if_neg (by simp [noMark])]
        exact ⟨_, rfl, left⟩
      · rw [some, List.cons_append] at left
        have mark := exponent.isExponentMark
        rw [nextIs_cons left, nextIs_cons left,
          if_neg (by simp [(exponentMark_stops mark).2]), if_pos mark]
        exact skipExponent_of ends (by rw [left, Exponent.bytes, List.cons_append, List.cons_append])

theorem skipUnsigned_of (ends : Ends rest)
    (found : c.rest = numeral.whole.bytes ++
      (numeral.fractionBytes ++ (numeral.exponentBytes ++ rest))) :
    ∃ c', skipUnsigned c = .ok c' ∧ c'.rest = rest := by
  obtain ⟨digit, tail, same, range⟩ := numeral.whole.begins
  have stops := stops_behind_whole numeral ends
  have first := found
  rw [same, List.cons_append] at first
  unfold skipUnsigned
  rw [first]
  dsimp only
  by_cases zero : digit = 0x30
  · have alone : numeral.whole.bytes = word "0" := numeral.lead (by rw [same, zero]; rfl)
    have left : (c.drop 1).peek.rest = numeral.fractionBytes ++ (numeral.exponentBytes ++ rest) := by
      rw [Cursor.peek_rest, Cursor.drop_rest, found, alone]
      rfl
    have noDigit : (c.drop 1).peek.nextIs isDigit = false := Stops.nextIs (by rwa [left])
    rw [if_pos zero, if_neg (by simp [noDigit])]
    exact skipAfterWhole_of ends left
  · rw [if_neg zero, if_pos (isDigit_iff.mpr range)]
    have left := dropDigits_of numeral.whole.isDigit stops found
    exact skipAfterWhole_of ends (c.dropDigits.peek_rest.trans left)

end Skipping

section Reading

def Unnatural (result : Except Fault (Number × Cursor)) : Prop :=
  ∀ value c', result ≠ .ok (.natural value, c')

variable {positive positiveExponent zero : Bool} {significand : Nat} {exponent : Int}

theorem unnatural_error (fault : Fault) : Unnatural (.error fault) := by
  intro value c' same
  cases same

theorem unnatural_scaled : Unnatural (scaled positive significand exponent c) := by
  intro value c' same
  unfold scaled at same
  split at same <;> cases same

theorem unnatural_readHugeExponent :
    Unnatural (readHugeExponent positive zero positiveExponent c) := by
  intro value c' same
  unfold readHugeExponent at same
  dsimp only at same
  split at same <;> cases same

theorem unnatural_readExponentDigits :
    Unnatural (readExponentDigits positive significand exponent positiveExponent c) := by
  unfold readExponentDigits
  split
  · exact unnatural_error _
  · split
    · dsimp only
      split
      · exact unnatural_readHugeExponent
      · exact unnatural_scaled
    · exact unnatural_error _

theorem unnatural_readExponent : Unnatural (readExponent positive significand exponent c) := by
  unfold readExponent
  dsimp only
  split
  · exact unnatural_readExponentDigits
  · split <;> exact unnatural_readExponentDigits

theorem unnatural_readScale : Unnatural (readScale positive significand exponent c) := by
  unfold readScale
  split
  · exact unnatural_readExponent
  · exact unnatural_scaled

theorem unnatural_readFraction : Unnatural (readFraction positive significand exponent c) := by
  unfold readFraction
  dsimp only
  split
  · exact unnatural_readScale
  · split
    · exact unnatural_error _
    · exact unnatural_readScale

theorem unnatural_readLong : Unnatural (readLong positive significand c) := by
  unfold readLong
  dsimp only
  split
  · exact unnatural_readFraction
  · exact unnatural_readScale

theorem unnatural_readAfterWhole_negative : Unnatural (readAfterWhole false significand c) := by
  unfold readAfterWhole
  split
  · exact unnatural_readFraction
  · split
    · exact unnatural_readExponent
    · intro value c' same
      simp only [Bool.false_eq_true, if_false] at same
      split at same <;> cases same

theorem unnatural_readUnsigned_negative : Unnatural (readUnsigned false c) := by
  unfold readUnsigned
  split
  · exact unnatural_error _
  · split
    · dsimp only
      split
      · exact unnatural_error _
      · exact unnatural_readAfterWhole_negative
    · split
      · dsimp only
        split
        · exact unnatural_readLong
        · exact unnatural_readAfterWhole_negative
      · exact unnatural_error _

/-- Where only a part of the digits is taken, another one comes next. -/
theorem nextIs_behind_part {lead : UInt8} {digits : List UInt8} {count : Nat}
    (decimal : ∀ byte ∈ digits, isDigit byte = true) (part : count < digits.length)
    (found : c.rest = lead :: (digits ++ rest)) :
    (c.drop (1 + count)).peek.nextIs isDigit = true := by
  have left : (c.drop (1 + count)).peek.rest = digits.drop count ++ rest := by
    rw [Cursor.peek_rest, Cursor.drop_rest, found, Nat.add_comm, List.drop_succ_cons,
      List.drop_append_of_le_length (Nat.le_of_lt part)]
  rw [List.drop_eq_getElem_cons part, List.cons_append] at left
  rw [nextIs_cons left]
  exact decimal _ (List.getElem_mem part)

/-- Reading takes the digits of the whole part as long as 64 bits hold their number. -/
theorem readUnsigned_of (positive : Bool) (ends : Ends rest)
    (found : c.rest = numeral.whole.bytes ++
      (numeral.fractionBytes ++ (numeral.exponentBytes ++ rest))) :
    (numeral.whole.value ≤ significandLimit ∧
      ∃ c', readUnsigned positive c = readAfterWhole positive numeral.whole.value c' ∧
        c'.rest = numeral.fractionBytes ++ (numeral.exponentBytes ++ rest)) ∨
    (significandLimit < numeral.whole.value ∧
      ∃ kept c', readUnsigned positive c = readLong positive kept c') := by
  obtain ⟨digit, tail, same, range⟩ := numeral.whole.begins
  have stops := stops_behind_whole numeral ends
  have first := found
  rw [same, List.cons_append] at first
  unfold readUnsigned
  rw [first]
  dsimp only
  by_cases zero : digit = 0x30
  · have alone : numeral.whole.bytes = word "0" := numeral.lead (by rw [same, zero]; rfl)
    have nothing : numeral.whole.value = 0 := by
      rw [Digits.value, alone]
      rfl
    have left : (c.drop 1).peek.rest = numeral.fractionBytes ++ (numeral.exponentBytes ++ rest) := by
      rw [Cursor.peek_rest, Cursor.drop_rest, found, alone]
      rfl
    have noDigit : (c.drop 1).peek.nextIs isDigit = false := Stops.nextIs (by rwa [left])
    refine Or.inl ⟨by rw [nothing]; exact Nat.zero_le _, _, ?_, left⟩
    rw [if_pos zero, if_neg (by simp [noDigit]), nothing]
  · have decimal : ∀ byte ∈ tail, isDigit byte = true := by
      intro byte member
      exact numeral.whole.isDigit byte (by simp [same, member])
    have value : numeral.whole.value = digitsFrom (digitValue digit) tail := by
      rw [Digits.value_eq, same]
      simp [digitsFrom]
    rw [if_neg zero, if_pos (isDigit_iff.mpr range)]
    by_cases fits : numeral.whole.value ≤ significandLimit
    · rw [value] at fits ⊢
      have taken := absorb_all decimal stops fits
      have left : (c.drop (1 + tail.length)).peek.rest =
          numeral.fractionBytes ++ (numeral.exponentBytes ++ rest) := by
        simp [first, Nat.add_comm 1]
      have noDigit : (c.drop (1 + tail.length)).peek.nextIs isDigit = false :=
        Stops.nextIs (by rwa [left])
      refine Or.inl ⟨fits, _, ?_, left⟩
      rw [taken]
      dsimp only
      rw [if_neg (by simp [noDigit])]
    · rw [value] at fits ⊢
      have small : digitValue digit ≤ significandLimit := by
        have bound : digit.toNat < 256 := digit.toNat_lt
        unfold digitValue significandLimit
        omega
      have part := absorb_part (numeral.fractionBytes ++ (numeral.exponentBytes ++ rest)) small
        (Nat.lt_of_not_le fits)
      exact Or.inr ⟨Nat.lt_of_not_le fits, _, _, if_pos (nextIs_behind_part decimal part first)⟩

def Numeral.Plain (numeral : Numeral) : Prop :=
  numeral.negative = false ∧ numeral.fraction = none ∧ numeral.exponent = none

theorem readAfterWhole_plain (plain : numeral.Plain) (ends : Ends rest)
    (found : c.rest = numeral.fractionBytes ++ (numeral.exponentBytes ++ rest)) :
    readAfterWhole true significand c = .ok (.natural significand, c) ∧ c.rest = rest := by
  obtain ⟨_, fraction, exponent⟩ := plain
  have left : c.rest = rest := by
    rw [found, Numeral.fractionBytes, Numeral.exponentBytes, fraction, exponent]
    rfl
  rw [← left] at ends
  have noPoint := ends.nextIs (fun byte => byte = point) (by decide)
  have noMark := ends.nextIs isExponentMark (by decide)
  refine ⟨?_, left⟩
  unfold readAfterWhole
  rw [if_neg (by simp [noPoint]), if_neg (by simp [noMark]), if_pos rfl]

theorem unnatural_readAfterWhole (more : numeral.fraction ≠ none ∨ numeral.exponent ≠ none)
    (found : c.rest = numeral.fractionBytes ++ (numeral.exponentBytes ++ rest)) :
    Unnatural (readAfterWhole true significand c) := by
  unfold readAfterWhole
  cases fraction : numeral.fraction with
  | some digits =>
      rw [Numeral.fractionBytes, fraction] at found
      rw [nextIs_cons found, if_pos (by decide)]
      exact unnatural_readFraction
  | none =>
      rcases numeral.exponentBytes_begins with absent | ⟨exponent, _, present⟩
      · unfold Numeral.exponentBytes at absent
        split at absent
        · cases absent
        · rename_i exponent
          simp [fraction, exponent] at more
      · rw [Numeral.fractionBytes, fraction, present] at found
        have mark := exponent.isExponentMark
        rw [nextIs_cons found, nextIs_cons found,
          if_neg (by simp [(exponentMark_stops mark).2]), if_pos mark]
        exact unnatural_readExponent

/-- A number is read as a natural one if it is written with digits only and 64 bits hold it, and in no
other case. -/
theorem readNumber_of (ends : Ends rest) (found : c.rest = numeral.bytes ++ rest) :
    (numeral.Plain ∧ numeral.whole.value ≤ significandLimit ∧
      ∃ c', readNumber c = .ok (.natural numeral.whole.value, c') ∧ c'.rest = rest) ∨
    (¬(numeral.Plain ∧ numeral.whole.value ≤ significandLimit) ∧ Unnatural (readNumber c)) := by
  unfold readNumber
  cases sign : numeral.negative with
  | true =>
      have first : c.rest = minus :: (numeral.whole.bytes ++
          (numeral.fractionBytes ++ numeral.exponentBytes) ++ rest) := by
        rw [found, Numeral.bytes, Numeral.sign, sign]
        rfl
      rw [nextIs_cons first, if_pos (by decide)]
      refine Or.inr ⟨?_, unnatural_readUnsigned_negative⟩
      rintro ⟨⟨positive, _⟩, _⟩
      rw [positive] at sign
      cases sign
  | false =>
      have start : c.rest = numeral.whole.bytes ++
          (numeral.fractionBytes ++ (numeral.exponentBytes ++ rest)) := by
        rw [found, Numeral.bytes, Numeral.sign, sign]
        simp
      obtain ⟨digit, tail, same, range⟩ := numeral.whole.begins
      have first := start
      rw [same, List.cons_append] at first
      have unsigned : ¬(decide (digit = minus) = true) := by
        intro isMinus
        have digit := isDigit_iff.mpr range
        rw [of_decide_eq_true isMinus] at digit
        revert digit
        decide
      rw [nextIs_cons first, if_neg unsigned]
      rcases readUnsigned_of true ends start with
        ⟨fits, next, read, left⟩ | ⟨large, kept, next, read⟩
      · by_cases plain : numeral.Plain
        · obtain ⟨natural, behind⟩ := readAfterWhole_plain plain ends left
          exact Or.inl ⟨plain, fits, next, by rw [read, natural], behind⟩
        · refine Or.inr ⟨fun both => plain both.1, ?_⟩
          rw [read]
          refine unnatural_readAfterWhole ?_ left
          by_contra none
          rw [not_or, not_not, not_not] at none
          exact plain ⟨sign, none⟩
      · refine Or.inr ⟨fun both => absurd both.2 (Nat.not_le.mpr large), ?_⟩
        rw [read]
        exact unnatural_readLong

end Reading

end HeapGraph.Json

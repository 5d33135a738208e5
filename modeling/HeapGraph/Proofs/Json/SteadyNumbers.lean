import HeapGraph.Proofs.Json.Steady

/-!
Numbers that are read, and numbers that are skipped, with more bytes behind. A number whose last digit
was the last byte has come to the end, where more digits would make another number of it.
-/

namespace HeapGraph.Json

section Absorbing

variable {more : List UInt8} {c c' : Cursor}

/-- More digits behind are not looked at, if it was not the end that stopped the taking. -/
theorem absorb_append (limit value : Nat) (bytes more : List UInt8) :
    absorb limit value (bytes ++ more) = absorb limit value bytes ∨
      (absorb limit value bytes).2 = bytes.length := by
  induction bytes generalizing value with
  | nil => exact .inr rfl
  | cons byte bytes ih =>
      rw [List.cons_append, absorb, absorb]
      dsimp only
      split
      · obtain same | all := ih (value * 10 + digitValue byte)
        · exact .inl (by rw [same])
        · exact .inr (by rw [all, List.length_cons])
      · exact .inl rfl

theorem Longer.absorb (longer : Longer more c c') (limit value : Nat)
    (shown : (c.drop (Json.absorb limit value c.rest).2).Shows more) :
    Json.absorb limit value c'.rest = Json.absorb limit value c.rest := by
  rw [longer (shows_of_drop shown)]
  obtain same | all := absorb_append limit value c.rest more
  · exact same
  · have nothing : more = [] := shown (by rw [all, Cursor.drop_rest, List.drop_length])
    rw [nothing, List.append_nil]

theorem Longer.dropAbsorbed (longer : Longer more c c') (limit value : Nat) :
    Longer more (c.drop (Json.absorb limit value c.rest).2)
      (c'.drop (Json.absorb limit value c'.rest).2) := by
  intro shown
  rw [longer.absorb limit value shown]
  exact longer.drop _ shown

theorem Longer.absorbBehind {byte : UInt8} {rest : List UInt8} (longer : Longer more c c')
    (found : c.rest = byte :: rest) (limit value : Nat) :
    Longer more (c.drop (1 + (Json.absorb limit value rest).2))
        (c'.drop (1 + (Json.absorb limit value (rest ++ more)).2)) ∧
      ((c.drop (1 + (Json.absorb limit value rest).2)).Shows more →
        Json.absorb limit value (rest ++ more) = Json.absorb limit value rest) := by
  have tail : (c.drop 1).rest = rest := by simp [found]
  have tail' : (c'.drop 1).rest = rest ++ more := by simp [longer.cons found]
  have after := (longer.drop 1).dropAbsorbed limit value
  have taken := (longer.drop 1).absorb limit value
  rw [tail, tail', Cursor.drop_drop, Cursor.drop_drop] at after
  rw [tail, tail', Cursor.drop_drop] at taken
  exact ⟨after, taken⟩

end Absorbing

section Reading

variable (positive : Bool) (significand : Nat) (exponent : Int)

theorem scaled_steady : Steady (scaled positive significand exponent) := by
  intro more c c' longer
  unfold scaled
  cases magnitude? significand exponent with
  | some value => exact .ok _ longer
  | none => exact .fault (by simp)

theorem readHugeExponent_steady (zero positiveExponent : Bool) :
    Steady (readHugeExponent positive zero positiveExponent) := by
  intro more c c' longer
  exact .ite _ (.fault (by simp)) (.ok _ (longer.drop 1).dropDigits.peek)

theorem readExponentDigits_steady (positiveExponent : Bool) :
    Steady (readExponentDigits positive significand exponent positiveExponent) := by
  intro more c c' longer
  unfold readExponentDigits
  refine .first longer (by simp) fun byte rest found _ => .ite _ ?_ (.fault (by simp))
  dsimp only
  obtain ⟨after, taken⟩ := longer.absorbBehind found exponentLimit (digitValue byte)
  generalize absorb exponentLimit (digitValue byte) rest = seen,
    absorb exponentLimit (digitValue byte) (rest ++ more) = seen' at taken after ⊢
  generalize c.drop (1 + seen.2) = next, c'.drop (1 + seen'.2) = next' at taken after ⊢
  apply Extends.told after taken
  intro next' after
  apply Extends.nextIs after
  · intro next' after
    exact readHugeExponent_steady _ _ _ after
  · intro next' after
    exact scaled_steady _ _ _ after.peek

theorem readExponent_steady : Steady (readExponent positive significand exponent) := by
  intro more c c' longer
  unfold readExponent
  have mark := (longer.drop 1).peek
  dsimp only
  generalize (c.drop 1).peek = next, (c'.drop 1).peek = next' at mark ⊢
  apply Extends.nextIs mark
  · intro next' mark
    exact readExponentDigits_steady _ _ _ _ (mark.drop 1)
  · intro next' mark
    apply Extends.nextIs mark
    · intro next' mark
      exact readExponentDigits_steady _ _ _ _ (mark.drop 1)
    · intro next' mark
      exact readExponentDigits_steady _ _ _ _ mark

theorem readScale_steady : Steady (readScale positive significand exponent) := by
  intro more c c' longer
  unfold readScale
  apply Extends.nextIs longer
  · intro c' longer
    exact readExponent_steady _ _ _ longer
  · intro c' longer
    exact scaled_steady _ _ _ longer

theorem readFraction_steady : Steady (readFraction positive significand exponent) := by
  intro more c c' longer
  unfold readFraction
  dsimp only
  have taken := (longer.drop 1).absorb significandLimit significand
  have after := (longer.drop 1).dropAbsorbed significandLimit significand
  generalize absorb significandLimit significand (c.drop 1).rest = seen,
    absorb significandLimit significand (c'.drop 1).rest = seen' at taken after ⊢
  replace after := after.peek
  replace taken : ((c.drop 1).drop seen.2).peek.Shows more → seen' = seen :=
    fun shown => taken (shows_of_peek shown)
  generalize ((c.drop 1).drop seen.2).peek = next,
    ((c'.drop 1).drop seen'.2).peek = next' at taken after ⊢
  apply Extends.told after taken
  intro next' after
  apply Extends.nextIs after
  · intro next' after
    exact readScale_steady _ _ _ after.dropDigits.peek
  · intro next' after
    refine .ite _ ?_ (readScale_steady _ _ _ after)
    intro nothing
    exact ⟨_, rfl, by simp [after.rest_eq nothing]⟩

theorem readAfterWhole_steady : Steady (readAfterWhole positive significand) := by
  intro more c c' longer
  unfold readAfterWhole
  apply Extends.nextIs longer
  · intro c' longer
    exact readFraction_steady _ _ _ longer
  · intro c' longer
    apply Extends.nextIs longer
    · intro c' longer
      exact readExponent_steady _ _ _ longer
    · intro c' longer
      exact .ite _ (.ok _ longer) (.ite _ (.ok _ longer) (.ok _ longer))

theorem readLong_steady : Steady (readLong positive significand) := by
  intro more c c' longer
  unfold readLong
  dsimp only
  have after := longer.dropDigits.peek
  have count : c.dropDigits.peek.Shows more →
      (c'.rest.takeWhile isDigit).length = (c.rest.takeWhile isDigit).length := by
    intro shown
    rw [longer.takeWhile isDigit (shows_of_peek shown)]
  generalize (c.rest.takeWhile isDigit).length = seen,
    (c'.rest.takeWhile isDigit).length = seen' at count ⊢
  generalize c.dropDigits.peek = next, c'.dropDigits.peek = next' at count after ⊢
  apply Extends.told after count
  intro next' after
  apply Extends.nextIs after
  · intro next' after
    exact readFraction_steady _ _ _ after
  · intro next' after
    exact readScale_steady _ _ _ after

theorem readUnsigned_steady : Steady (readUnsigned positive) := by
  intro more c c' longer
  unfold readUnsigned
  refine .first longer (by simp) fun byte rest found _ => ?_
  dsimp only
  refine .ite _ ?_ (.ite _ ?_ (.fault (by simp)))
  · have after := (longer.drop 1).peek
    generalize (c.drop 1).peek = next, (c'.drop 1).peek = next' at after ⊢
    apply Extends.nextIs after
    · intro next' after
      exact .fault (by simp)
    · intro next' after
      exact readAfterWhole_steady _ _ after
  · obtain ⟨after, taken⟩ := longer.absorbBehind found significandLimit (digitValue byte)
    generalize absorb significandLimit (digitValue byte) rest = seen,
      absorb significandLimit (digitValue byte) (rest ++ more) = seen' at taken after ⊢
    replace after := after.peek
    replace taken : (c.drop (1 + seen.2)).peek.Shows more → seen' = seen :=
      fun shown => taken (shows_of_peek shown)
    generalize (c.drop (1 + seen.2)).peek = next,
      (c'.drop (1 + seen'.2)).peek = next' at taken after ⊢
    apply Extends.told after taken
    intro next' after
    apply Extends.nextIs after
    · intro next' after
      exact readLong_steady _ _ after
    · intro next' after
      exact readAfterWhole_steady _ _ after

theorem readNumber_steady : Steady readNumber := by
  intro more c c' longer
  unfold readNumber
  apply Extends.nextIs longer
  · intro c' longer
    exact readUnsigned_steady _ (longer.drop 1)
  · intro c' longer
    exact readUnsigned_steady _ longer

end Reading

section Skipping

theorem skipExponent_steady : Steady skipExponent := by
  intro more c c' longer
  unfold skipExponent
  have sign := (longer.drop 1).peek.dropNext (fun byte => byte = plus || byte = minus)
  dsimp only
  generalize (if (c.drop 1).peek.nextIs (fun byte => byte = plus || byte = minus) = true then
      (c.drop 1).peek.drop 1 else (c.drop 1).peek) = next,
    (if (c'.drop 1).peek.nextIs (fun byte => byte = plus || byte = minus) = true then
      (c'.drop 1).peek.drop 1 else (c'.drop 1).peek) = next' at sign ⊢
  apply Extends.nextIs sign
  · intro next' sign
    exact .done sign.dropDigits.peek
  · intro next' sign
    split <;> split <;> exact .fault (by simp)

theorem skipFraction_steady : Steady skipFraction := by
  intro more c c' longer
  unfold skipFraction
  dsimp only
  have digits := longer.drop 1
  have after := digits.dropDigits.peek
  have digit : (c.drop 1).dropDigits.peek.Shows more →
      (c'.drop 1).nextIs isDigit = (c.drop 1).nextIs isDigit := by
    intro shown
    exact digits.nextIs (shows_of_drop (shows_of_peek shown)) isDigit
  generalize (c.drop 1).nextIs isDigit = seen, (c'.drop 1).nextIs isDigit = seen' at digit ⊢
  generalize (c.drop 1).dropDigits.peek = next, (c'.drop 1).dropDigits.peek = next' at digit after ⊢
  apply Extends.told after digit
  intro next' after
  refine .ite _ (.fault (by simp)) ?_
  apply Extends.nextIs after
  · intro next' after
    exact skipExponent_steady after
  · intro next' after
    exact .done after

theorem skipAfterWhole_steady : Steady skipAfterWhole := by
  intro more c c' longer
  unfold skipAfterWhole
  apply Extends.nextIs longer
  · intro c' longer
    exact skipFraction_steady longer
  · intro c' longer
    apply Extends.nextIs longer
    · intro c' longer
      exact skipExponent_steady longer
    · intro c' longer
      exact .done longer

theorem skipUnsigned_steady : Steady skipUnsigned := by
  intro more c c' longer
  unfold skipUnsigned
  refine .first longer (by simp) fun byte rest _ _ => ?_
  dsimp only
  refine .ite _ ?_ (.ite _ (skipAfterWhole_steady longer.dropDigits.peek) (.fault (by simp)))
  have after := (longer.drop 1).peek
  generalize (c.drop 1).peek = next, (c'.drop 1).peek = next' at after ⊢
  apply Extends.nextIs after
  · intro next' after
    exact .fault (by simp)
  · intro next' after
    exact skipAfterWhole_steady after

end Skipping

end HeapGraph.Json

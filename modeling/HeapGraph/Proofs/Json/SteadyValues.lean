import HeapGraph.Json.Reader
import HeapGraph.Proofs.Json.Skipping
import HeapGraph.Proofs.Json.SteadyNumbers

/-!
Values that are skipped, and single values that are read, with more bytes behind.
-/

namespace HeapGraph.Json

section Parts

theorem skipScalar_steady (byte : UInt8) : Steady (skipScalar byte) := by
  intro more c c' longer
  unfold skipScalar
  cases restOfWord? byte with
  | some letters => exact readLiteral_steady letters (longer.drop 1)
  | none =>
      refine .ite _ (skipUnsigned_steady (longer.drop 1)) (.ite _ (skipUnsigned_steady longer) ?_)
      exact .ite _ (skipString_steady (longer.drop 1)) (.fault (by simp))

theorem readColon_steady : Steady readColon := by
  intro more c c' longer
  have blanks := longer.skipBlanks
  unfold readColon
  exact .first blanks (by simp) fun _ _ _ _ => .ite _ (.done (blanks.drop 1)) (.fault (by simp))

theorem skipKey_steady : Steady skipKey := by
  intro more c c' longer
  have blanks := longer.skipBlanks
  unfold skipKey
  refine .first blanks (by simp) fun _ _ _ _ => .ite _ ?_ (.fault (by simp))
  have key := skipString_steady (blanks.drop 1)
  generalize skipString (c.skipBlanks.drop 1) = read,
    skipString (c'.skipBlanks.drop 1) = read' at key ⊢
  apply key.andThen fun _ => by rfl
  intro c c' _ longer
  exact readColon_steady longer

end Parts

section Skipping

section Steps

variable {stack : List Bracket} {bracket : Bracket} {c : Cursor}

theorem skip_value_end (empty : c.skipBlanks.rest = []) :
    skip .value stack c = .error (c.skipBlanks.faultNext .endInValue) := by
  rw [skip]
  split
  · rfl
  · rename_i found
    rw [empty] at found
    cases found

theorem skip_inside_end {awaiting : Awaiting} (inside : awaiting ≠ .value)
    (empty : c.skipBlanks.rest = []) :
    skip awaiting (bracket :: stack) c = .error (c.skipBlanks.faultNext bracket.endInside) := by
  rw [skip.eq_def]
  cases awaiting with
  | value => exact absurd rfl inside
  | opened | following =>
      dsimp only
      split
      · rfl
      · rename_i found
        rw [empty] at found
        cases found

variable (stack bracket c)

theorem skip_value_eq :
    skip .value stack c =
      match c.skipBlanks.rest with
      | [] => .error (c.skipBlanks.faultNext .endInValue)
      | byte :: _ =>
        if byte = openList then skip .opened (.list :: stack) (c.skipBlanks.drop 1)
        else if byte = openObject then skip .opened (.object :: stack) (c.skipBlanks.drop 1)
        else
          match skipScalar byte c.skipBlanks with
          | .error fault => .error fault
          | .ok after => skip .following stack after := by
  cases found : c.skipBlanks.rest with
  | nil => exact skip_value_end found
  | cons byte rest => exact skip_value found

theorem skip_opened_eq :
    skip .opened (bracket :: stack) c =
      match c.skipBlanks.rest with
      | [] => .error (c.skipBlanks.faultNext bracket.endInside)
      | byte :: _ =>
        if byte = bracket.closing then skip .following stack (c.skipBlanks.drop 1)
        else enter bracket stack c.skipBlanks := by
  cases found : c.skipBlanks.rest with
  | nil => exact skip_inside_end (by decide) found
  | cons byte rest => exact skip_opened found

theorem skip_following_eq :
    skip .following (bracket :: stack) c =
      match c.skipBlanks.rest with
      | [] => .error (c.skipBlanks.faultNext bracket.endInside)
      | byte :: _ =>
        if byte = bracket.closing then skip .following stack (c.skipBlanks.drop 1)
        else if byte = comma then enter bracket stack (c.skipBlanks.drop 1)
        else .error (c.skipBlanks.faultNext bracket.expectedCommaOrEnd) := by
  cases found : c.skipBlanks.rest with
  | nil => exact skip_inside_end (by decide) found
  | cons byte rest => exact skip_following found

theorem skip_done {awaiting : Awaiting} (outside : awaiting ≠ .value) :
    skip awaiting [] c = .ok c := by
  rw [skip.eq_def]
  cases awaiting with
  | value => exact absurd rfl outside
  | opened | following => rfl

end Steps

theorem enter_extends {more : List UInt8} {stack : List Bracket} {bracket : Bracket}
    {c c' : Cursor} (longer : Longer more c c')
    (values : ∀ next next', next.rest.length ≤ c.rest.length → Longer more next next' →
      Extends False more (skip .value (bracket :: stack) next)
        (skip .value (bracket :: stack) next')) :
    Extends False more (enter bracket stack c) (enter bracket stack c') := by
  unfold enter
  cases bracket with
  | list => exact values c c' (Nat.le_refl _) longer
  | object =>
      have key := skipKey_steady longer
      dsimp only
      generalize ran : skipKey c = read, skipKey c' = read' at key ⊢
      apply key.andThen fun _ => by rfl
      rintro next next' rfl longer
      exact values next next' (Nat.le_of_lt (skipKey_length_lt ran)) longer

theorem skip_steady (awaiting : Awaiting) (stack : List Bracket) : Steady (skip awaiting stack) := by
  intro more c c' longer
  -- Each step but the one into a bracket just opened takes a byte.
  induction size : 2 * c.rest.length + awaiting.patience using Nat.strongRecOn
    generalizing awaiting stack c c' with
  | ind size ih =>
      have blanks := longer.skipBlanks
      have fewer := c.skipBlanks_length_le
      have recur {awaiting' : Awaiting} {stack' : List Bracket} {next next' : Cursor}
          (shorter : next.rest.length < c.rest.length) (longer : Longer more next next') :
          Extends False more (skip awaiting' stack' next) (skip awaiting' stack' next') := by
        have patient : awaiting'.patience ≤ 1 := by cases awaiting' <;> decide
        exact ih _ (by omega) awaiting' stack' longer rfl
      have one {byte : UInt8} {rest : List UInt8} (found : c.skipBlanks.rest = byte :: rest) :
          (c.skipBlanks.drop 1).rest.length < c.rest.length := by
        simp only [found, List.length_cons] at fewer
        simp only [Cursor.drop_rest, found, List.drop_succ_cons, List.drop_zero]
        omega
      cases awaiting with
      | value =>
          rw [skip_value_eq stack c, skip_value_eq stack c']
          refine .first blanks (by simp) fun byte rest found _ => ?_
          refine .ite _ (recur (one found) (blanks.drop 1))
            (.ite _ (recur (one found) (blanks.drop 1)) ?_)
          have scalar := skipScalar_steady byte blanks
          generalize ran : skipScalar byte c.skipBlanks = read,
            skipScalar byte c'.skipBlanks = read' at scalar ⊢
          apply scalar.andThen fun _ => by rfl
          rintro next next' rfl longer
          exact recur (Nat.lt_of_lt_of_le (skipScalar_length_lt found ran) fewer) longer
      | opened =>
          cases stack with
          | nil =>
              rw [skip_done c (by decide), skip_done c' (by decide)]
              exact .done longer
          | cons bracket stack =>
              rw [skip_opened_eq stack bracket c, skip_opened_eq stack bracket c']
              refine .first blanks (by simp) fun byte rest found _ => ?_
              refine .ite _ (recur (one found) (blanks.drop 1)) (enter_extends blanks ?_)
              intro next next' shorter longer
              exact ih _ (by simp only [Awaiting.patience] at size ⊢; omega) .value _ longer rfl
      | following =>
          cases stack with
          | nil =>
              rw [skip_done c (by decide), skip_done c' (by decide)]
              exact .done longer
          | cons bracket stack =>
              rw [skip_following_eq stack bracket c, skip_following_eq stack bracket c']
              refine .first blanks (by simp) fun byte rest found _ => ?_
              refine .ite _ (recur (one found) (blanks.drop 1)) (.ite _ ?_ (.fault (by simp)))
              refine enter_extends (blanks.drop 1) fun next next' shorter longer => ?_
              exact recur (Nat.lt_of_le_of_lt shorter (one found)) longer

end Skipping

section Readers

variable {α β : Type}

theorem wrongKind_extends {firm : Prop} {more : List UInt8} {c c' : Cursor} (expected : String)
    (longer : Longer more c c') :
    Extends firm more (.error (wrongKind expected c) : Except Fault (α × Cursor))
      (.error (wrongKind expected c')) := by
  unfold wrongKind
  cases found : c.rest with
  | nil =>
      intro nothing
      rw [(longer.rest_eq nothing).trans found]
      exact ⟨_, rfl, by simp⟩
  | cons byte rest =>
      rw [longer.cons found]
      dsimp only
      cases restOfWord? byte with
      | some letters =>
          dsimp only
          have literal := readLiteral_steady letters (longer.drop 1)
          generalize readLiteral letters (c.drop 1) = read,
            readLiteral letters (c'.drop 1) = read' at literal ⊢
          apply literal.andThen fun _ => by rfl
          intro c c' _ longer
          exact .fault (by simp)
      | none =>
          dsimp only
          split
          · have number := readNumber_steady longer
            generalize readNumber c = read, readNumber c' = read' at number ⊢
            apply number.bind fun _ => by rfl
            intro number c c' _ longer
            exact .fault (by simp)
          · split
            · have text := readString_steady (longer.drop 1)
              generalize readString (c.drop 1) = read, readString (c'.drop 1) = read' at text ⊢
              apply text.bind fun _ => by rfl
              intro text c c' _ longer
              exact .fault (by simp)
            · split
              · exact .fault (by simp)
              · split <;> exact .fault (by simp)

theorem Reader.map_steady {reader : Reader α} (steady : Steady reader.run) (f : α → β) :
    Steady (reader.map f).run := by
  intro more c c' longer
  have read := steady longer
  unfold Reader.map
  dsimp only
  generalize reader.run c = result, reader.run c' = result' at read ⊢
  apply read.bind fun _ => by rfl
  intro value c c' _ longer
  exact .ok _ longer

theorem ofFirst_extends {firm : Prop} {more : List UInt8} {c c' : Cursor}
    {read : UInt8 → Cursor → Except Fault (α × Cursor)} (advances) 
    (longer : Longer more c.skipBlanks c'.skipBlanks)
    (each : ∀ byte rest, c.skipBlanks.rest = byte :: rest →
      Extends firm more (read byte c.skipBlanks) (read byte c'.skipBlanks)) :
    Extends firm more ((Reader.ofFirst read advances).run c)
      ((Reader.ofFirst read advances).run c') :=
  .first longer (by simp) fun byte rest found _ => each byte rest found

theorem readWord_steady (letters : List UInt8) (value : α) : Steady (readWord letters value) := by
  intro more c c' longer
  unfold readWord
  have literal := readLiteral_steady letters (longer.drop 1)
  generalize readLiteral letters (c.drop 1) = read,
    readLiteral letters (c'.drop 1) = read' at literal ⊢
  apply literal.andThen fun _ => by rfl
  intro c c' _ longer
  exact .ok _ longer

theorem string_steady : Steady string.run := by
  intro more c c' longer
  refine ofFirst_extends _ longer.skipBlanks fun byte rest _ => ?_
  exact .ite _ (readString_steady (longer.skipBlanks.drop 1)) (wrongKind_extends _ longer.skipBlanks)

theorem stringOrNull_steady : Steady stringOrNull.run := by
  intro more c c' longer
  have blanks := longer.skipBlanks
  refine ofFirst_extends _ blanks fun byte rest _ => ?_
  refine .ite _ (readWord_steady _ _ blanks) (.ite _ ?_ (wrongKind_extends _ blanks))
  have text := readString_steady (blanks.drop 1)
  unfold readQuoted
  generalize readString (c.skipBlanks.drop 1) = read,
    readString (c'.skipBlanks.drop 1) = read' at text ⊢
  apply text.bind fun _ => by rfl
  intro text c c' _ longer
  exact .ok _ longer

theorem boolean_steady : Steady boolean.run := by
  intro more c c' longer
  have blanks := longer.skipBlanks
  refine ofFirst_extends _ blanks fun byte rest _ => ?_
  exact .ite _ (readWord_steady _ _ blanks)
    (.ite _ (readWord_steady _ _ blanks) (wrongKind_extends _ blanks))

theorem octetOf_steady (number : Number) : Steady (octetOf number) := by
  intro more c c' longer
  cases number with
  | natural value => exact .ite _ (.ok _ longer) (.fault (by simp))
  | negative value | decimal value => exact .fault (by simp)

theorem octet_steady : Steady octet.run := by
  intro more c c' longer
  have blanks := longer.skipBlanks
  refine ofFirst_extends _ blanks fun byte rest _ => .ite _ ?_ (wrongKind_extends _ blanks)
  have number := readNumber_steady blanks
  generalize readNumber c.skipBlanks = read, readNumber c'.skipBlanks = read' at number ⊢
  apply number.bind fun _ => by rfl
  intro number c c' _ longer
  exact octetOf_steady number longer

end Readers

end HeapGraph.Json

import HeapGraph.Proofs.Json.Quoted

/-!
Readings of a document and of the same document with more bytes behind. A steady reading takes the
same from both, and fails for the same cause if there is nothing more. Only where it has come to the
end of the shorter document may it go on in the longer one, as a number does whose last digit was the
last byte.
-/

namespace HeapGraph.Json

class Landing (ρ : Type) where
  cursor : ρ → Cursor
  /-- The same with another cursor. -/
  move : ρ → Cursor → ρ
  cursor_move : ∀ found c, cursor (move found c) = c
  move_cursor : ∀ found, move found (cursor found) = found

instance : Landing Cursor where
  cursor := id
  move _ c := c
  cursor_move _ _ := rfl
  move_cursor _ := rfl

instance {α : Type} : Landing (α × Cursor) where
  cursor := Prod.snd
  move found c := (found.1, c)
  cursor_move _ _ := rfl
  move_cursor _ := rfl

/-- The next byte of the cursor is the one that comes next with `more` behind. -/
def Cursor.Shows (c : Cursor) (more : List UInt8) : Prop :=
  c.rest = [] → more = []

/-- The bytes ahead of `c'` are those ahead of `c` and `more`. Nothing is known of `c'` where `c` has
come to its end. -/
def Longer (more : List UInt8) (c c' : Cursor) : Prop :=
  c.Shows more → c'.rest = c.rest ++ more

section Relations

variable {ρ : Type} [Landing ρ]

/-- What is read is read again, with `more` left besides, and a failure fails for the same cause if
there is nothing more. Unless the reading is firm, nothing is said where it has come to its end. -/
def Extends (firm : Prop) (more : List UInt8) (result result' : Except Fault ρ) : Prop :=
  match result with
  | .ok found => firm ∨ (Landing.cursor found).Shows more →
      ∃ c', result' = .ok (Landing.move found c') ∧ c'.rest = (Landing.cursor found).rest ++ more
  | .error fault => more = [] → ∃ fault', result' = .error fault' ∧ fault'.cause = fault.cause

def Steady (reading : Cursor → Except Fault ρ) : Prop :=
  ∀ ⦃more : List UInt8⦄ ⦃c c' : Cursor⦄, Longer more c c' →
    Extends False more (reading c) (reading c')

end Relations

section Cursors

variable {more rest : List UInt8} {c c' : Cursor} {byte : UInt8}

theorem shows_of_cons (found : c.rest = byte :: rest) : c.Shows more := by
  intro empty
  rw [found] at empty
  cases empty

theorem shows_of_drop {count : Nat} (shown : (c.drop count).Shows more) : c.Shows more := by
  intro empty
  exact shown (by simp [empty])

theorem shows_of_peek (shown : c.peek.Shows more) : c.Shows more := by
  unfold Cursor.Shows at shown
  rwa [Cursor.peek_rest] at shown

namespace Longer

theorem of_rest (same : c'.rest = c.rest ++ more) : Longer more c c' :=
  fun _ => same

theorem rest_eq (longer : Longer more c c') (nothing : more = []) : c'.rest = c.rest := by
  rw [longer fun _ => nothing, nothing, List.append_nil]

theorem cons (longer : Longer more c c') (found : c.rest = byte :: rest) :
    c'.rest = byte :: (rest ++ more) := by
  rw [longer (shows_of_cons found), found, List.cons_append]

theorem drop (longer : Longer more c c') (count : Nat) :
    Longer more (c.drop count) (c'.drop count) := by
  intro shown
  simp only [Cursor.drop_rest]
  rw [longer (shows_of_drop shown)]
  by_cases inside : count ≤ c.rest.length
  · exact List.drop_append_of_le_length inside
  · have ended : (c.drop count).rest = [] := by
      rw [Cursor.drop_rest]
      exact List.drop_eq_nil_of_le (by omega)
    simp [shown ended]

theorem peek (longer : Longer more c c') : Longer more c.peek c'.peek := by
  unfold Longer Cursor.Shows
  rw [Cursor.peek_rest, Cursor.peek_rest]
  exact longer

theorem takeWhile (longer : Longer more c c') (test : UInt8 → Bool)
    (shown : (c.drop (c.rest.takeWhile test).length).Shows more) :
    c'.rest.takeWhile test = c.rest.takeWhile test := by
  rw [longer (shows_of_drop shown), List.takeWhile_append]
  split
  · rename_i all
    have nothing : more = [] := shown (by rw [all, Cursor.drop_rest, List.drop_length])
    rw [nothing, List.takeWhile_nil, List.append_nil, (List.takeWhile_prefix test).eq_of_length all]
  · rfl

theorem dropWhile (longer : Longer more c c') (test : UInt8 → Bool) :
    Longer more (c.drop (c.rest.takeWhile test).length)
      (c'.drop (c'.rest.takeWhile test).length) := by
  intro shown
  rw [longer.takeWhile test shown]
  exact longer.drop _ shown

theorem skipBlanks (longer : Longer more c c') : Longer more c.skipBlanks c'.skipBlanks :=
  (longer.dropWhile Cursor.isBlank).peek

theorem dropDigits (longer : Longer more c c') : Longer more c.dropDigits c'.dropDigits :=
  longer.dropWhile isDigit

theorem nextIs (longer : Longer more c c') (shown : c.Shows more) (test : UInt8 → Bool) :
    c'.nextIs test = c.nextIs test := by
  unfold Cursor.nextIs
  rw [longer shown]
  cases found : c.rest with
  | nil => rw [shown found, List.append_nil]
  | cons byte rest => rfl

theorem dropNext (longer : Longer more c c') (test : UInt8 → Bool) :
    Longer more (if c.nextIs test then c.drop 1 else c)
      (if c'.nextIs test then c'.drop 1 else c') := by
  intro shown
  by_cases next : c.nextIs test
  · rw [if_pos next] at shown ⊢
    rw [longer.nextIs (shows_of_drop shown), if_pos next]
    exact longer.drop 1 shown
  · rw [if_neg next] at shown ⊢
    rw [longer.nextIs shown, if_neg next]
    exact longer shown

end Longer

@[simp] theorem Cursor.faultBefore_cause (c : Cursor) (count : Nat) (cause : Cause) :
    (c.faultBefore count cause).cause = cause :=
  rfl

end Cursors

section Steps

variable {ρ τ α : Type} [Landing ρ] [Landing τ] {firm : Prop} {more : List UInt8}
  {c c' : Cursor} {result result' other other' : Except Fault ρ}

namespace Extends

theorem ok (value : α) (longer : Longer more c c') :
    Extends False more (.ok (value, c)) (.ok (value, c')) :=
  fun shown => ⟨c', rfl, longer (shown.resolve_left id)⟩

theorem done (longer : Longer more c c') :
    Extends False more (.ok c : Except Fault Cursor) (.ok c') :=
  fun shown => ⟨c', rfl, longer (shown.resolve_left id)⟩

theorem fault {fault fault' : Fault} (same : fault'.cause = fault.cause) :
    Extends firm more (.error fault : Except Fault ρ) (.error fault') :=
  fun _ => ⟨fault', rfl, same⟩

/-- Readings that differ in nothing but the places of their faults can stand for each other. -/
theorem congr (again : Extends firm more result result')
    (same : other.mapError Fault.cause = result.mapError Fault.cause)
    (same' : other'.mapError Fault.cause = result'.mapError Fault.cause) :
    Extends firm more other other' := by
  obtain ⟨passes', fails'⟩ := alike_of_causes same'
  cases other with
  | ok found =>
      have read := (alike_of_causes same.symm).1 found rfl
      rw [read] at again
      intro shown
      obtain ⟨c', read', left⟩ := again shown
      exact ⟨c', passes' _ read', left⟩
  | error fault =>
      obtain ⟨reached, failed, cause⟩ := (alike_of_causes same.symm).2 fault rfl
      rw [failed] at again
      intro nothing
      obtain ⟨reached', failed', cause'⟩ := again nothing
      obtain ⟨fault', placed, moved⟩ := fails' reached' failed'
      exact ⟨fault', placed, moved.trans (cause'.trans cause)⟩

theorem ite (test : Prop) [Decidable test] (yes : Extends firm more result result')
    (no : Extends firm more other other') :
    Extends firm more (if test then result else other) (if test then result' else other') := by
  split
  · exact yes
  · exact no

theorem found {value : α} {read' : Except Fault (α × Cursor)}
    (again : Extends firm more (.ok (value, c)) read') (shown : firm ∨ c.Shows more) :
    ∃ c', read' = .ok (value, c') ∧ c'.rest = c.rest ++ more :=
  again shown

theorem weaken (again : Extends True more result result') : Extends False more result result' := by
  cases result with
  | error fault => exact again
  | ok found => exact fun _ => again (.inl trivial)

/-- A reading that has come to its end cannot be told from one that goes on. -/
theorem of_self (self : Extends firm more result result) (added : more ≠ []) :
    Extends firm more result result' := by
  cases result with
  | error fault => exact fun nothing => absurd nothing added
  | ok found =>
      intro shown
      obtain ⟨c', same, left⟩ := self shown
      have moved := congrArg Landing.cursor (Except.ok.inj same)
      rw [Landing.cursor_move] at moved
      rw [moved] at left
      exact absurd (List.self_eq_append_right.mp left) added

theorem ended (self : Extends firm more result result)
    (same : more = [] → Extends firm more result result') : Extends firm more result result' := by
  by_cases nothing : more = []
  · exact same nothing
  · exact self.of_self nothing

/-- What is read in two steps. Where the first has come to the end, the second does not get away from
there. -/
theorem next {goes : Except Fault ρ → Except Fault τ} (first : Extends False more result result')
    (strict : ∀ fault, goes (.error fault) = .error fault)
    (second : ∀ found c', result = .ok found → Longer more (Landing.cursor found) c' →
      Extends firm more (goes (.ok found)) (goes (.ok (Landing.move found c')))) :
    Extends firm more (goes result) (goes result') := by
  cases result with
  | error fault =>
      rw [strict]
      intro nothing
      obtain ⟨fault', rfl, same⟩ := first nothing
      exact ⟨fault', strict fault', same⟩
  | ok found =>
      by_cases shown : (Landing.cursor found).Shows more
      · obtain ⟨c', rfl, left⟩ := first (Or.inr shown)
        exact second found c' rfl (.of_rest left)
      -- Nothing is known of the longer document here, and nothing has to be: the second reading starts
      -- at the end, so it fails or stays there.
      · have self := second found (Landing.cursor found) rfl fun shows => absurd shows shown
        rw [Landing.move_cursor] at self
        exact self.of_self fun nothing => shown fun _ => nothing

theorem bind {goes : Except Fault (α × Cursor) → Except Fault τ}
    {read read' : Except Fault (α × Cursor)} (first : Extends False more read read')
    (strict : ∀ fault, goes (.error fault) = .error fault)
    (second : ∀ value c c', read = .ok (value, c) → Longer more c c' →
      Extends firm more (goes (.ok (value, c))) (goes (.ok (value, c')))) :
    Extends firm more (goes read) (goes read') :=
  first.next strict fun found c' => second found.1 found.2 c'

theorem andThen {goes : Except Fault Cursor → Except Fault τ} {read read' : Except Fault Cursor}
    (first : Extends False more read read')
    (strict : ∀ fault, goes (.error fault) = .error fault)
    (second : ∀ c c', read = .ok c → Longer more c c' →
      Extends firm more (goes (.ok c)) (goes (.ok c'))) :
    Extends firm more (goes read) (goes read') :=
  first.next strict second

/-- A reading that goes by what was seen on the way to a cursor. At the end that may have been something
else, but then the reading does not get away from there. -/
theorem told {β : Type} {goes : β → Cursor → Except Fault ρ} {seen seen' : β}
    (longer : Longer more c c') (same : c.Shows more → seen' = seen)
    (second : ∀ c', Longer more c c' → Extends firm more (goes seen c) (goes seen c')) :
    Extends firm more (goes seen c) (goes seen' c') := by
  by_cases shown : c.Shows more
  · rw [same shown]
    exact second c' longer
  · have self := second c fun shows => absurd shows shown
    exact self.of_self fun nothing => shown fun _ => nothing

theorem nextIs {yes no : Cursor → Except Fault ρ} (longer : Longer more c c') (test : UInt8 → Bool)
    (passed : ∀ c', Longer more c c' → Extends firm more (yes c) (yes c'))
    (failed : ∀ c', Longer more c c' → Extends firm more (no c) (no c')) :
    Extends firm more (if c.nextIs test then yes c else no c)
      (if c'.nextIs test then yes c' else no c') := by
  have same := fun shown => longer.nextIs shown test
  generalize c.nextIs test = seen, c'.nextIs test = seen' at same ⊢
  apply told longer same
  intro c' longer
  exact .ite _ (passed c' longer) (failed c' longer)

/-- A reading that goes by the next byte, and fails where there is none. -/
theorem first {fault fault' : Fault} {next next' : UInt8 → List UInt8 → Except Fault ρ}
    (longer : Longer more c c') (same : fault'.cause = fault.cause)
    (goes : ∀ byte rest, c.rest = byte :: rest → c'.rest = byte :: (rest ++ more) →
      Extends firm more (next byte rest) (next' byte (rest ++ more))) :
    Extends firm more (match c.rest with
      | [] => .error fault
      | byte :: rest => next byte rest) (match c'.rest with
      | [] => .error fault'
      | byte :: rest => next' byte rest) := by
  cases found : c.rest with
  | nil =>
      intro nothing
      have empty : c'.rest = [] := (longer.rest_eq nothing).trans found
      exact ⟨fault', by rw [empty], same⟩
  | cons byte rest =>
      have again := longer.cons found
      rw [again]
      exact goes byte rest found again

end Extends

end Steps

section Words

theorem readLiteral_steady (word : List UInt8) : Steady (readLiteral word) := by
  intro more c c' longer
  induction word generalizing c c' with
  | nil => exact .done longer
  | cons byte word ih =>
      rw [readLiteral, readLiteral]
      exact .first longer (by simp) fun found _ _ _ => .ite _ (ih (longer.drop 1)) (.fault (by simp))

end Words

section Escapes

theorem readHex_short {c : Cursor} (short : c.rest.length < 4) :
    ∃ fault, readHex c = .error fault ∧ fault.cause = .endInString := by
  rw [readHex_eq]
  split
  · rename_i found
    simp only [found, List.length_cons] at short
    omega
  · exact ⟨_, rfl, by simp⟩

theorem readHex_steady : Steady readHex := by
  intro more c c' longer
  -- Too few digits are told by their number, not by the byte that is missing.
  by_cases short : c.rest.length < 4
  · obtain ⟨fault, failed, cause⟩ := readHex_short short
    rw [failed]
    intro nothing
    rw [← longer.rest_eq nothing] at short
    obtain ⟨fault', failed', cause'⟩ := readHex_short short
    exact ⟨fault', failed', cause'.trans cause.symm⟩
  · match found : c.rest with
    | p :: q :: r :: s :: rest =>
        have again := longer.cons found
        simp only [List.cons_append] at again
        rw [readHex_eq, readHex_eq, found, again]
        dsimp only
        split
        · exact .ok _ (longer.drop 4)
        · exact .fault (by simp)
    | [] | [_] | [_, _] | [_, _, _] => simp [found] at short

theorem readBetween_steady (byte : UInt8) : Steady (readBetween byte) := by
  intro more c c' longer
  unfold readBetween
  exact .first longer (by simp) fun found _ _ _ => .ite _ (.done (longer.drop 1)) (.fault (by simp))

theorem readUnicode_steady : Steady readUnicode := by
  intro more c c' longer
  unfold readUnicode
  have hex := readHex_steady longer
  generalize readHex c = read, readHex c' = read' at hex ⊢
  apply hex.bind fun _ => by rfl
  intro unit c c' _ longer
  refine .ite _ (.fault (by simp)) (.ite _ ?_ (.ok _ longer))
  have mark := readBetween_steady backslash longer
  generalize readBetween backslash c = read, readBetween backslash c' = read' at mark ⊢
  apply mark.andThen fun _ => by rfl
  intro c c' _ longer
  dsimp only
  have letter := readBetween_steady letterU longer
  generalize readBetween letterU c = read, readBetween letterU c' = read' at letter ⊢
  apply letter.andThen fun _ => by rfl
  intro c c' _ longer
  dsimp only
  have hex := readHex_steady longer
  generalize readHex c = read, readHex c' = read' at hex ⊢
  apply hex.bind fun _ => by rfl
  intro low c c' _ longer
  exact .ite _ (.ok _ longer) (.fault (by simp))

theorem readEscape_steady : Steady readEscape := by
  intro more c c' longer
  unfold readEscape
  refine .first longer (by simp) fun byte _ _ _ => ?_
  dsimp only
  cases shortEscape? byte with
  | some meant => exact .ok _ (longer.drop 1)
  | none =>
      refine .ite _ ?_ (.fault (by simp))
      have unicode := readUnicode_steady (longer.drop 1)
      generalize readUnicode (c.drop 1) = read, readUnicode (c'.drop 1) = read' at unicode ⊢
      apply unicode.bind fun _ => by rfl
      intro char c c' _ longer
      exact .ok _ longer

theorem skipEscape_steady : Steady skipEscape := by
  intro more c c' longer
  unfold skipEscape
  refine .first longer (by simp) fun byte _ _ _ => ?_
  refine .ite _ (.done (longer.drop 1)) (.ite _ ?_ (.fault (by simp)))
  have hex := readHex_steady (longer.drop 1)
  generalize readHex (c.drop 1) = read, readHex (c'.drop 1) = read' at hex ⊢
  apply hex.bind fun _ => by rfl
  intro unit c c' _ longer
  exact .done longer

end Escapes

section Strings

theorem readBytes_steady (before : List UInt8) : Steady (readBytes before) := by
  intro more c c' longer
  induction size : c.rest.length using Nat.strongRecOn generalizing before c c' with
  | ind size ih =>
      subst size
      rw [readBytes_eq before c, readBytes_eq before c']
      refine .first longer (by simp) fun byte rest found _ => ?_
      refine .ite _ (.ok _ (longer.drop 1)) (.ite _ ?_ (.ite _ (.fault (by simp)) ?_))
      · have escape := readEscape_steady (longer.drop 1)
        generalize ran : readEscape (c.drop 1) = read, readEscape (c'.drop 1) = read' at escape ⊢
        apply escape.bind fun _ => by rfl
        rintro bytes next next' rfl longer
        have shorter := readEscape_length_le ran
        simp only [Cursor.drop_rest, found, List.drop_succ_cons, List.drop_zero] at shorter
        exact ih next.rest.length (by simp only [found, List.length_cons]; omega) _ longer rfl
      · exact ih (c.drop 1).rest.length (by simp [found]) _ (longer.drop 1) rfl

theorem readString_steady : Steady readString := by
  intro more c c' longer
  unfold readString
  rw [readStringBytes_eq, readStringBytes_eq]
  have bytes := readBytes_steady [] longer
  generalize readBytes [] c = read, readBytes [] c' = read' at bytes ⊢
  apply bytes.bind fun _ => by rfl
  intro bytes c c' _ longer
  dsimp only
  cases Text.ofUtf8? bytes with
  | some text => exact .ok _ longer
  | none => exact .fault (by simp)

theorem skipBytes_steady : Steady skipBytes := by
  intro more c c' longer
  induction size : c.rest.length using Nat.strongRecOn generalizing c c' with
  | ind size ih =>
      subst size
      rw [skipBytes_eq c, skipBytes_eq c']
      refine .first longer (by simp) fun byte rest found _ => ?_
      refine .ite _ (.done (longer.drop 1)) (.ite _ ?_ (.ite _ (.fault (by simp)) ?_))
      · have escape := skipEscape_steady (longer.drop 1)
        generalize ran : skipEscape (c.drop 1) = read, skipEscape (c'.drop 1) = read' at escape ⊢
        apply escape.andThen fun _ => by rfl
        rintro next next' rfl longer
        have shorter := skipEscape_length_le ran
        simp only [Cursor.drop_rest, found, List.drop_succ_cons, List.drop_zero] at shorter
        exact ih next.rest.length (by simp only [found, List.length_cons]; omega) longer rfl
      · exact ih (c.drop 1).rest.length (by simp [found]) (longer.drop 1) rfl

theorem skipString_steady : Steady skipString := by
  intro more c c' longer
  exact (skipBytes_steady longer).congr (skipString_eq c) (skipString_eq c')

end Strings

end HeapGraph.Json

import HeapGraph.Proofs.Json.Records
import HeapGraph.Proofs.Json.SteadyValues

/-!
Lists, records and documents with more bytes behind. What stands between brackets is firm: it has not
come to the end before the closing bracket has been taken.
-/

namespace HeapGraph.Json

/-- A reader that takes the same with more behind, also where the value ends the document. -/
def Reader.Firm {α : Type} (reader : Reader α) : Prop :=
  ∀ ⦃more : List UInt8⦄ ⦃c c' : Cursor⦄, Longer more c.skipBlanks c'.skipBlanks →
    Extends True more (reader.run c) (reader.run c')

theorem Reader.Firm.steady {α : Type} {reader : Reader α} (firm : reader.Firm) :
    Steady reader.run :=
  fun _ _ _ longer => (firm longer.skipBlanks).weaken

variable {σ α : Type} {more : List UInt8} {c c' : Cursor}

section Endings

theorem nextElement_steady (first : Bool) : Steady (nextElement first) := by
  intro more c c' longer
  have blanks := longer.skipBlanks
  unfold nextElement
  refine .first blanks (by simp) fun byte rest _ _ => ?_
  refine .ite _ (.ok _ blanks) (.ite _ (.ok _ blanks) (.ite _ ?_ (.fault (by simp))))
  have behind := (blanks.drop 1).skipBlanks
  refine .first behind (by simp) fun byte rest _ _ => ?_
  exact .ite _ (.fault (by simp)) (.ok _ behind)

theorem nextKey_steady (first : Bool) : Steady (nextKey first) := by
  intro more c c' longer
  have blanks := longer.skipBlanks
  have behind := (blanks.drop 1).skipBlanks
  unfold nextKey
  refine .first blanks (by simp) fun byte rest _ _ => ?_
  refine .ite _ (.ok _ blanks) (.ite _ (.ite _ ?_ (.fault (by simp))) ?_)
  · have text := readString_steady (blanks.drop 1)
    generalize readString (c.skipBlanks.drop 1) = read,
      readString (c'.skipBlanks.drop 1) = read' at text ⊢
    apply text.bind fun _ => by rfl
    intro text c c' _ longer
    exact .ok _ longer
  · refine .ite _ (.first behind (by simp) fun byte rest _ _ => ?_) (.fault (by simp))
    refine .ite _ ?_ (.ite _ (.fault (by simp)) (.fault (by simp)))
    have text := readString_steady (behind.drop 1)
    generalize readString ((c.skipBlanks.drop 1).skipBlanks.drop 1) = read,
      readString ((c'.skipBlanks.drop 1).skipBlanks.drop 1) = read' at text ⊢
    apply text.bind fun _ => by rfl
    intro text c c' _ longer
    exact .ok _ longer

variable {firm : Prop} (outcome : Except Complaint α)

theorem settle_wrong {cause cause' : Cause} (same : more = [] → cause' = cause) :
    Extends firm more (settle outcome (some cause, c)) (settle outcome (some cause', c')) := by
  cases outcome with
  | error complaint => exact .fault (by simp)
  | ok value =>
      intro nothing
      exact ⟨_, rfl, by simp [same nothing]⟩

/-- A reading that has just taken a closing bracket is done, whatever comes next. -/
theorem settle_closed {byte : UInt8} {rest : List UInt8} (found : c.rest = byte :: rest)
    (longer : Longer more c c') :
    Extends firm more (settle outcome (none, c.drop 1)) (settle outcome (none, c'.drop 1)) := by
  cases outcome with
  | error complaint => exact .fault (by simp)
  | ok value =>
      intro _
      have behind : (c'.drop 1).rest = (c.drop 1).rest ++ more := by
        simp [found, longer.cons found]
      exact ⟨c'.drop 1, rfl, behind⟩

theorem settle_closeList (longer : Longer more c c') :
    Extends firm more (settle outcome (closeList c)) (settle outcome (closeList c')) := by
  have blanks := longer.skipBlanks
  unfold closeList
  dsimp only
  cases found : c.skipBlanks.rest with
  | nil =>
      refine .ended (settle_wrong outcome fun _ => rfl) fun nothing => ?_
      rw [(blanks.rest_eq nothing).trans found]
      exact settle_wrong outcome fun _ => rfl
  | cons byte rest =>
      rw [blanks.cons found]
      dsimp only
      split
      · exact settle_closed outcome found blanks
      · split
        · have behind := (blanks.drop 1).skipBlanks
          refine settle_wrong outcome fun nothing => ?_
          rw [behind.nextIs fun _ => nothing]
        · exact settle_wrong outcome fun _ => rfl

theorem settle_closeObject (longer : Longer more c c') :
    Extends firm more (settle outcome (closeObject c)) (settle outcome (closeObject c')) := by
  have blanks := longer.skipBlanks
  unfold closeObject
  dsimp only
  cases found : c.skipBlanks.rest with
  | nil =>
      refine .ended (settle_wrong outcome fun _ => rfl) fun nothing => ?_
      rw [(blanks.rest_eq nothing).trans found]
      exact settle_wrong outcome fun _ => rfl
  | cons byte rest =>
      rw [blanks.cons found]
      dsimp only
      split
      · exact settle_closed outcome found blanks
      · exact settle_wrong outcome fun _ => rfl

end Endings

section Lists

variable {item : Reader α}

theorem readElements_eq (first : Bool) (taken : List α) (c : Cursor) :
    readElements item first taken c =
      match nextElement first c with
      | .error fault => .error fault
      | .ok (more, start) =>
        if more then
          match item.run start with
          | .error fault => .error fault
          | .ok (value, after) => readElements item false (value :: taken) after
        else .ok (taken.reverse, start) := by
  cases next : nextElement first c with
  | error fault =>
      rw [readElements]
      split <;> rename_i again <;> rw [next] at again <;> cases again
      rfl
  | ok found =>
      obtain ⟨more, start⟩ := found
      cases more with
      | false => exact readElements_end next
      | true => exact readElements_more next

theorem readElements_steady (items : Steady item.run) (first : Bool) (taken : List α) :
    Steady (readElements item first taken) := by
  intro more c c' longer
  induction size : c.rest.length using Nat.strongRecOn generalizing first taken c c' with
  | ind size ih =>
      subst size
      rw [readElements_eq first taken c, readElements_eq first taken c']
      have next := nextElement_steady first longer
      generalize looked : nextElement first c = read, nextElement first c' = read' at next ⊢
      apply next.bind fun _ => by rfl
      rintro follows start start' rfl longer
      refine .ite _ ?_ (.ok _ longer)
      have element := items longer
      generalize ran : item.run start = read, item.run start' = read' at element ⊢
      apply element.bind fun _ => by rfl
      rintro value after after' rfl longer
      have shorter := Nat.lt_of_lt_of_le (item.advances ran) (nextElement_length_le looked)
      exact ih after.rest.length shorter _ _ longer rfl

theorem list_firm (items : Steady item.run) : (list item).Firm := by
  intro more c c' longer
  refine ofFirst_extends _ longer fun byte rest _ => .ite _ ?_ (wrongKind_extends _ longer)
  have elements := readElements_steady items true [] (longer.drop 1)
  generalize readElements item true [] (c.skipBlanks.drop 1) = read,
    readElements item true [] (c'.skipBlanks.drop 1) = read' at elements ⊢
  apply elements.bind fun _ => by rfl
  intro values c c' _ longer
  exact settle_closeList _ longer

end Lists

section Members

theorem skipMember_steady : Steady skipMember := by
  intro more c c' longer
  unfold skipMember
  have mark := readColon_steady longer
  generalize readColon c = read, readColon c' = read' at mark ⊢
  apply mark.andThen fun _ => by rfl
  intro c c' _ longer
  exact skip_steady _ _ longer

def Field.Steady (field : Field σ) : Prop :=
  ∀ draft, Json.Steady (field.fill draft).run

theorem Field.ofReader_steady {reader : Reader α} (steady : Json.Steady reader.run) (name : String)
    (required : Bool) (get : σ → Option α) (set : σ → α → σ) :
    (Field.ofReader name reader required get set).Steady :=
  fun draft => Reader.map_steady steady (set draft)

theorem readMember_steady {field : Field σ} (steady : field.Steady) (draft : σ) :
    Steady (readMember field draft) := by
  intro more c c' longer
  unfold readMember
  have mark := readColon_steady longer
  generalize readColon c = read, readColon c' = read' at mark ⊢
  apply mark.andThen fun _ => by rfl
  intro c c' _ longer
  exact steady draft longer

variable {form : RecordForm σ α}

theorem readMembers_eq (first : Bool) (draft : σ) (c : Cursor) :
    form.readMembers first draft c =
      match nextKey first c with
      | .error fault => .error fault
      | .ok (key, start) =>
        match key with
        | none => .ok (form.finish draft, start)
        | some key =>
          match form.fields.find? (·.name = key) with
          | none =>
            match skipMember start with
            | .error fault => .error fault
            | .ok after => form.readMembers false draft after
          | some field =>
            if field.filled draft then .ok (.error (.duplicateField field.name), start)
            else
              match readMember field draft start with
              | .error fault => .error fault
              | .ok (draft, after) => form.readMembers false draft after := by
  rw [RecordForm.readMembers]
  split
  next next => rw [next]
  next next => rw [next]
  next key start next =>
    rw [next]
    dsimp only
    cases form.fields.find? (·.name = key) with
    | none =>
        dsimp only
        cases skipMember start <;> rfl
    | some field =>
        dsimp only
        split
        · rfl
        · cases readMember field draft start <;> rfl

theorem readMembers_steady (fields : ∀ field ∈ form.fields, field.Steady) (first : Bool)
    (draft : σ) : Steady (form.readMembers first draft) := by
  intro more c c' longer
  induction size : c.rest.length using Nat.strongRecOn generalizing first draft c c' with
  | ind size ih =>
      subst size
      rw [readMembers_eq first draft c, readMembers_eq first draft c']
      have next := nextKey_steady first longer
      generalize looked : nextKey first c = read, nextKey first c' = read' at next ⊢
      apply next.bind fun _ => by rfl
      rintro key start start' rfl longer
      cases key with
      | none => exact .ok _ longer
      | some key =>
          have fewer := nextKey_length_le looked
          simp only [keyLength, Option.isSome_some, if_true] at fewer
          dsimp only
          cases named : form.fields.find? (·.name = key) with
          | none =>
              have value := skipMember_steady longer
              dsimp only
              generalize ran : skipMember start = read, skipMember start' = read' at value ⊢
              apply value.andThen fun _ => by rfl
              rintro after after' rfl longer
              have shorter := skipMember_length_le ran
              exact ih after.rest.length (by omega) _ _ longer rfl
          | some field =>
              refine .ite _ (.ok _ longer) ?_
              have known := List.mem_of_find?_eq_some named
              have value := readMember_steady (fields field known) draft longer
              generalize ran : readMember field draft start = read,
                readMember field draft start' = read' at value ⊢
              apply value.bind fun _ => by rfl
              rintro draft after after' rfl longer
              have shorter := readMember_length_le ran
              exact ih after.rest.length (by omega) _ _ longer rfl

theorem readPositions_steady (form : RecordForm σ α) {fields : List (Field σ)}
    (steady : ∀ field ∈ fields, field.Steady) (first : Bool) (index : Nat) (draft : σ) :
    Steady fun c => form.readPositions first index draft c fields := by
  intro more c c' longer
  induction fields generalizing first index draft c c' with
  | nil => exact .ok _ longer
  | cons field fields ih =>
      have others := fun field member => steady field (List.mem_cons_of_mem _ member)
      dsimp only
      rw [RecordForm.readPositions, RecordForm.readPositions]
      have next := nextElement_steady first longer
      generalize nextElement first c = read, nextElement first c' = read' at next ⊢
      apply next.bind fun _ => by rfl
      intro follows c c' _ longer
      cases follows with
      | false => exact .ite _ (.ok _ longer) (ih others _ _ _ longer)
      | true =>
          have value := steady field List.mem_cons_self draft longer
          dsimp only
          generalize (field.fill draft).run c = read, (field.fill draft).run c' = read' at value ⊢
          apply value.bind fun _ => by rfl
          intro draft c c' _ longer
          exact ih others _ _ _ longer

theorem RecordForm.reader_firm (fields : ∀ field ∈ form.fields, field.Steady) :
    form.reader.Firm := by
  intro more c c' longer
  refine ofFirst_extends _ longer fun byte rest _ => ?_
  refine .ite _ ?_ (.ite _ ?_ (wrongKind_extends _ longer))
  · have inside := readPositions_steady form fields true 0 form.blank (longer.drop 1)
    dsimp only at inside
    generalize form.readPositions true 0 form.blank (c.skipBlanks.drop 1) form.fields = read,
      form.readPositions true 0 form.blank (c'.skipBlanks.drop 1) form.fields = read' at inside ⊢
    apply inside.bind fun _ => by rfl
    intro outcome c c' _ longer
    exact settle_closeList _ longer
  · have inside := readMembers_steady fields true form.blank (longer.drop 1)
    generalize form.readMembers true form.blank (c.skipBlanks.drop 1) = read,
      form.readMembers true form.blank (c'.skipBlanks.drop 1) = read' at inside ⊢
    apply inside.bind fun _ => by rfl
    intro outcome c c' _ longer
    exact settle_closeObject _ longer

end Members

section Documents

variable {reader : Reader α} {feed feed' : Feed} {document : List UInt8} {value : α}

/-- More behind a document that is read may only be blanks, and the document is read as before. -/
theorem Reader.Firm.readDocument_append (firm : reader.Firm)
    (read : reader.readDocument feed document = .ok value) (more : List UInt8) (other : α) :
    reader.readDocument feed (document ++ more) = .ok other ↔ Blanks more ∧ other = value := by
  obtain ⟨c, ran, blanks⟩ := readDocument_eq_ok_iff.mp read
  have longer : Longer more (Cursor.start feed document) (Cursor.start feed (document ++ more)) :=
    .of_rest (by simp)
  have again := firm longer.skipBlanks
  rw [ran] at again
  obtain ⟨c', ran', left⟩ := again.found (.inl trivial)
  rw [readDocument_eq_ok_iff, ran']
  constructor
  · rintro ⟨_, same, blanks'⟩
    cases same
    rw [left] at blanks'
    exact ⟨(List.forall_mem_append.mp blanks').2, rfl⟩
  · rintro ⟨others, rfl⟩
    exact ⟨c', rfl, by rw [left]; exact blanks.append others⟩

theorem Reader.Firm.readDocument_blanks (firm : reader.Firm) {before : List UInt8}
    (read : reader.readDocument feed document = .ok value) (leading : Blanks before) :
    reader.readDocument feed (before ++ document) = .ok value := by
  obtain ⟨c, ran, blanks⟩ := readDocument_eq_ok_iff.mp read
  have same : Longer [] (Cursor.start feed document).skipBlanks
      (Cursor.start feed (before ++ document)).skipBlanks := by
    refine .of_rest ?_
    simp only [Cursor.skipBlanks_rest, Cursor.start_rest, dropWhile_blanks leading, List.append_nil]
  have again := firm same
  rw [ran] at again
  obtain ⟨c', ran', left⟩ := again.found (.inl trivial)
  refine readDocument_eq_ok_iff.mpr ⟨c', ran', ?_⟩
  rwa [left, List.append_nil]

/-- However the bytes arrive, the same is read of them, or the same is wrong with them. -/
theorem Reader.Firm.readDocument_feed (firm : reader.Firm) (feed feed' : Feed)
    (document : List UInt8) :
    match reader.readDocument feed document with
    | .ok value => reader.readDocument feed' document = .ok value
    | .error fault =>
      ∃ fault', reader.readDocument feed' document = .error fault' ∧ fault'.cause = fault.cause := by
  have same : Longer [] (Cursor.start feed document) (Cursor.start feed' document) :=
    .of_rest (by simp)
  have again := firm same.skipBlanks
  unfold Reader.readDocument
  cases ran : reader.run (Cursor.start feed document) with
  | error fault =>
      rw [ran] at again
      obtain ⟨fault', failed, cause⟩ := again rfl
      exact ⟨fault', by rw [failed], cause⟩
  | ok found =>
      obtain ⟨value, c⟩ := found
      rw [ran] at again
      obtain ⟨c', ran', left⟩ := again.found (.inl trivial)
      rw [List.append_nil] at left
      rw [ran']
      dsimp only
      have blanks : c'.skipBlanks.rest.isEmpty = c.skipBlanks.rest.isEmpty := by
        rw [Cursor.skipBlanks_rest, Cursor.skipBlanks_rest]
        exact congrArg _ (congrArg _ left)
      rw [blanks]
      cases c.skipBlanks.rest.isEmpty with
      | true => rfl
      | false => exact ⟨_, rfl, by simp⟩

end Documents

end HeapGraph.Json

import HeapGraph.Proofs.Json.Slots

/-!
Readers of records. On the text of a value, the reader of a record with lawful fields gives the record
that the values of the fields make up, whether they stand in an object or in a list, and leaves what
stands behind the text. It fails where they make up none.
-/

namespace HeapGraph.Json

variable {σ α : Type} {c : Cursor} {before rest tail : List UInt8} {first : Bool}

section Keys

theorem nextKey_end (blanks : Blanks before)
    (found : c.rest = before ++ Bracket.object.closing :: rest) :
    ∃ c', nextKey first c = .ok (none, c') ∧ c'.rest = Bracket.object.closing :: rest := by
  have next := skipBlanks_of blanks (by decide) found
  refine ⟨c.skipBlanks, ?_, next⟩
  unfold nextKey
  dsimp only
  rw [next]
  exact if_pos rfl

theorem nextKey_of {entry : Member} {parts : List (List UInt8)} (spaced : entry.Spaced)
    (blanks : Blanks before)
    (found : c.rest = before ++ (among first (entry.bytes :: parts) ++ tail)) :
    ∃ c', nextKey first c = .ok (some entry.key, c') ∧
      c'.rest = entry.between ++ colon :: (entry.item.before ++
        (entry.item.text ++ (entry.item.after ++ (behindCommas parts ++ tail)))) := by
  obtain ⟨leading, quoted, _⟩ := spaced
  obtain ⟨letters, same⟩ := quoted.begins
  generalize behind : entry.between ++ colon :: (entry.item.before ++
    (entry.item.text ++ (entry.item.after ++ (behindCommas parts ++ tail)))) = left
  -- The key is read from its quotation mark on, and blanks before it are gone by then.
  have read {next : Cursor} (key : next.rest = quotationMark :: (letters ++ left)) :
      ∃ c', readString (next.drop 1) = .ok (entry.key, c') ∧ c'.rest = left :=
    readQuoted_of quoted (by rw [key, same, List.cons_append])
  cases first with
  | true =>
      have inside : c.rest = (before ++ entry.before) ++ quotationMark :: (letters ++ left) := by
        rw [found, among_cons, Member.bytes, Item.bytes, same, ← behind]
        simp only [List.append_assoc, List.cons_append]
        rfl
      have next := skipBlanks_of (blanks.append leading) (by decide) inside
      obtain ⟨c', key, foundLeft⟩ := read next
      refine ⟨c', ?_, foundLeft⟩
      unfold nextKey
      dsimp only
      rw [next]
      dsimp only
      rw [if_neg (by decide), if_pos rfl, if_pos rfl, key]
  | false =>
      have inside : c.rest = before ++
          comma :: (entry.before ++ quotationMark :: (letters ++ left)) := by
        rw [found, among, if_neg (by decide), behindCommas_cons, Member.bytes, Item.bytes, same,
          ← behind]
        simp only [List.append_assoc, List.cons_append]
        rfl
      have mark := skipBlanks_of blanks (by decide) inside
      have behindMark : (c.skipBlanks.drop 1).rest =
          entry.before ++ quotationMark :: (letters ++ left) := by
        rw [Cursor.drop_rest, mark]
        rfl
      have next := skipBlanks_of leading (by decide) behindMark
      obtain ⟨c', key, foundLeft⟩ := read next
      refine ⟨c', ?_, foundLeft⟩
      unfold nextKey
      dsimp only
      rw [mark]
      dsimp only
      rw [if_neg (by decide), if_neg (by decide), if_pos rfl, next]
      dsimp only
      rw [if_pos rfl, key]

theorem closeObject_of (found : c.rest = Bracket.object.closing :: rest) :
    ∃ c', closeObject c = (none, c') ∧ c'.rest = rest := by
  have next := skipBlanks_of blanks_nil (by decide) found
  refine ⟨c.skipBlanks.drop 1, ?_, by simp [next]⟩
  unfold closeObject
  dsimp only
  rw [next]
  exact if_pos rfl

theorem skipMember_of {part : Item} {between : List UInt8} (blanks : Blanks between)
    (spaced : part.Spaced) (written : Written part.value part.text) (ends : Ends tail)
    (found : c.rest = between ++ colon :: (part.before ++ (part.text ++ (part.after ++ tail)))) :
    ∃ c', skipMember c = .ok c' ∧ c'.rest = part.after ++ tail := by
  obtain ⟨next, mark, foundItem⟩ := readColon_of blanks found
  obtain ⟨c', skipped, left⟩ :=
    skipValue_of written spaced.1 (spaced.2.ends_append ends) foundItem
  exact ⟨c', by rw [skipMember, mark, ← skipped], left⟩

end Keys

/-- A form whose fields are lawful, with readers that are faithful to what they mean. No record is made
of a draft that lacks a required field. -/
structure RecordForm.Lawful (form : RecordForm σ α) (slots : List (Slot σ)) : Prop where
  fields : form.fields = slots.map Slot.field
  lawful : Json.Lawful slots
  reads : ∀ slot ∈ slots, slot.reader.Reads slot.means
  blank : ∀ slot ∈ slots, slot.get form.blank = none
  complete : ∀ draft record, form.finish draft = .ok record →
    ∀ slot ∈ slots, slot.required = true → slot.get draft ≠ none

variable {form : RecordForm σ α} {slots : List (Slot σ)} {slot : Slot σ} {draft : σ}

section Filling

theorem filled_iff : slot.field.filled draft = true ↔ slot.get draft ≠ none := by
  change (slot.get draft).isSome = true ↔ _
  rw [Option.isSome_iff_ne_none]

theorem settle_finish {close : Option Cause × Cursor} {c' : Cursor} (closed : close = (none, c'))
    (left : c'.rest = rest) :
    Faithful (settle (form.finish draft) close) (fun record => form.finish draft = .ok record)
      rest := by
  subst closed
  cases finished : form.finish draft with
  | error complaint =>
      intro record made
      cases made
  | ok record => exact Faithful.ok (by simp [eq_comm]) left

theorem settle_complaint (complaint : Complaint) (close : Option Cause × Cursor) :
    settle (.error complaint : Except Complaint α) close =
      .error (close.2.faultHere (.record complaint)) :=
  rfl

theorem settle_cause {close : Option Cause × Cursor} {cause : Cause} (outcome : Except Complaint α)
    (wrong : close.1 = some cause) : ∃ fault, settle outcome close = .error fault := by
  obtain ⟨found, after⟩ := close
  cases wrong
  cases outcome with
  | error complaint => exact ⟨_, rfl⟩
  | ok record => exact ⟨_, rfl⟩

end Filling

section Members

variable {start after : Cursor} {key : String}

theorem readMembers_end (next : nextKey first c = .ok (none, start)) :
    form.readMembers first draft c = .ok (form.finish draft, start) := by
  rw [RecordForm.readMembers]
  split <;> rename_i again <;> rw [next] at again <;> cases again
  rfl

theorem readMembers_other (next : nextKey first c = .ok (some key, start))
    (unknown : form.fields.find? (·.name = key) = none) (skipped : skipMember start = .ok after) :
    form.readMembers first draft c = form.readMembers false draft after := by
  rw [RecordForm.readMembers]
  split <;> rename_i again <;> rw [next] at again <;> cases again
  rw [unknown]
  dsimp only
  split <;> rename_i value <;> rw [skipped] at value <;> cases value
  rfl

theorem readMembers_twice {field : Field σ} (next : nextKey first c = .ok (some key, start))
    (known : form.fields.find? (·.name = key) = some field) (filled : field.filled draft = true) :
    form.readMembers first draft c = .ok (.error (.duplicateField field.name), start) := by
  rw [RecordForm.readMembers]
  split <;> rename_i again <;> rw [next] at again <;> cases again
  rw [known]
  dsimp only
  rw [if_pos filled]

theorem readMembers_more {field : Field σ} (next : nextKey first c = .ok (some key, start))
    (known : form.fields.find? (·.name = key) = some field) (empty : ¬field.filled draft = true) :
    form.readMembers first draft c =
      match readMember field draft start with
      | .error fault => .error fault
      | .ok (draft, after) => form.readMembers false draft after := by
  rw [RecordForm.readMembers]
  split <;> rename_i again <;> rw [next] at again <;> cases again
  rw [known]
  dsimp only
  rw [if_neg empty]
  split <;> rename_i value <;> rw [value]

def RecordForm.readObject (form : RecordForm σ α) (first : Bool) (draft : σ) (c : Cursor) :
    Except Fault (α × Cursor) :=
  match form.readMembers first draft c with
  | .error fault => .error fault
  | .ok (outcome, c) => settle outcome (closeObject c)

theorem readObject_more {field : Field σ} (next : nextKey first c = .ok (some key, start))
    (known : form.fields.find? (·.name = key) = some field) (empty : ¬field.filled draft = true) :
    form.readObject first draft c =
      match readMember field draft start with
      | .error fault => .error fault
      | .ok (draft, after) => form.readObject false draft after := by
  rw [RecordForm.readObject, readMembers_more next known empty]
  cases readMember field draft start <;> rfl

theorem RecordForm.Lawful.find?_field (laws : form.Lawful slots) (key : String) :
    form.fields.find? (·.name = key) = (slots.find? (·.name = key)).map Slot.field := by
  rw [laws.fields, List.find?_map]
  rfl

theorem RecordForm.Lawful.readObject_of (laws : form.Lawful slots) (draft : σ) {entries : List Member}
    (spaced : ∀ entry ∈ entries, entry.Spaced)
    (written : ∀ entry ∈ entries, Written entry.item.value entry.item.text)
    (blanks : Blanks before) (found : c.rest = before ++
      (among first (entries.map Member.bytes) ++ Bracket.object.closing :: rest)) :
    Faithful (form.readObject first draft c)
      (fun record => ∃ result, Gathers slots result draft (entries.map Member.pair) ∧
        form.finish result = .ok record) rest := by
  induction entries generalizing first draft c before with
  | nil =>
      rw [List.map_nil, among_nil, List.nil_append] at found
      obtain ⟨start, next, left⟩ := nextKey_end blanks found
      obtain ⟨c', closed, behind⟩ := closeObject_of left
      rw [RecordForm.readObject, readMembers_end next]
      exact (settle_finish closed behind).congr fun record => by simp [Gathers]
  | cons entry entries ih =>
      obtain ⟨entryWritten, moreWritten⟩ := List.forall_mem_cons.mp written
      obtain ⟨entrySpaced, moreSpaced⟩ := List.forall_mem_cons.mp spaced
      have between := entrySpaced.2.2.1
      have itemSpaced := entrySpaced.2.2.2
      have ends := ends_behindCommas (entries.map Member.bytes) .object rest
      obtain ⟨start, next, foundMember⟩ := nextKey_of entrySpaced blanks found
      have known := laws.find?_field entry.key
      have others (draft : σ) {after : Cursor} (left : after.rest = entry.item.after ++
          (among false (entries.map Member.bytes) ++ Bracket.object.closing :: rest)) :=
        ih draft moreSpaced moreWritten itemSpaced.2 left
      rw [List.map_cons, Member.pair]
      unfold Gathers
      cases slotFound : slots.find? (·.name = entry.key) with
      | none =>
          rw [slotFound, Option.map_none] at known
          obtain ⟨after, skipped, left⟩ :=
            skipMember_of between itemSpaced entryWritten ends foundMember
          rw [RecordForm.readObject, readMembers_other next known skipped]
          exact others draft left
      | some slot =>
          rw [slotFound, Option.map_some] at known
          dsimp only
          by_cases filled : slot.field.filled draft = true
          · rw [RecordForm.readObject, readMembers_twice next known filled]
            rintro record ⟨result, ⟨empty, _⟩, _⟩
            exact filled_iff.mp filled empty
          · have empty : slot.get draft = none := by
              by_contra some
              exact filled (filled_iff.mpr some)
            obtain ⟨inside, mark, foundItem⟩ := readColon_of between foundMember
            have faithful := (laws.reads slot (List.mem_of_find?_eq_some slotFound)).map
              (slot.set draft) entryWritten itemSpaced.1 (itemSpaced.2.ends_append ends) foundItem
            have read : readMember slot.field draft start =
                (slot.reader.map (slot.set draft)).run inside := by
              rw [readMember, mark]
              rfl
            rw [readObject_more next known filled, read]
            refine (faithful.bind fun draft' _ _ left => others draft' left).congr fun record => ?_
            constructor
            · rintro ⟨result, ⟨_, content, meant, gathers⟩, finished⟩
              exact ⟨_, ⟨content, meant, rfl⟩, result, gathers, finished⟩
            · rintro ⟨_, ⟨content, meant, rfl⟩, result, gathers, finished⟩
              exact ⟨result, ⟨empty, content, meant, gathers⟩, finished⟩

end Members

section Positions

def RecordForm.readList (form : RecordForm σ α) (first : Bool) (index : Nat) (draft : σ) (c : Cursor)
    (fields : List (Field σ)) : Except Fault (α × Cursor) :=
  match form.readPositions first index draft c fields with
  | .error fault => .error fault
  | .ok (outcome, c) => settle outcome (closeList c)

theorem readList_more {field : Field σ} {fields : List (Field σ)} {index : Nat} {start : Cursor}
    (next : nextElement first c = .ok (true, start)) :
    form.readList first index draft c (field :: fields) =
      match (field.fill draft).run start with
      | .error fault => .error fault
      | .ok (draft, after) => form.readList false (index + 1) draft after fields := by
  rw [RecordForm.readList, RecordForm.readPositions, next]
  dsimp only
  cases (field.fill draft).run start <;> rfl

theorem readList_short {field : Field σ} {fields : List (Field σ)} {index : Nat} {c' : Cursor}
    (next : nextElement first c = .ok (false, c')) (required : field.required = false) :
    form.readList first index draft c (field :: fields) =
      form.readList first (index + 1) draft c' fields := by
  rw [RecordForm.readList, RecordForm.readPositions, next, required]
  rfl

/-- A list does not end where another element comes. -/
theorem closeList_more {part : Item} {parts : List (List UInt8)}
    (written : Written part.value part.text) (spaced : part.Spaced) (blanks : Blanks before)
    (found : c.rest = before ++ (among first (part.bytes :: parts) ++ tail)) :
    ∃ cause, (closeList c).1 = some cause := by
  obtain ⟨byte, letters, same, begins⟩ := written.begins
  obtain ⟨blanks, byte, left, areBlanks, solid, notEnd, inside⟩ : ∃ blanks byte left,
      Blanks blanks ∧ byte ∉ word " \t\n\r" ∧ byte ≠ Bracket.list.closing ∧
        c.rest = blanks ++ byte :: left := by
    cases first with
    | true =>
        refine ⟨before ++ part.before, byte, letters ++ (part.after ++ (behindCommas parts ++ tail)),
          blanks.append spaced.1, begins.not_mem (by decide), ?_, ?_⟩
        · rintro rfl
          exact begins.solid (by decide)
        · rw [found, among_cons, Item.bytes, same]
          simp only [List.append_assoc, List.cons_append]
    | false =>
        refine ⟨before, comma, part.bytes ++ behindCommas parts ++ tail, blanks, by decide, by decide,
          ?_⟩
        rw [found, among, if_neg (by decide), behindCommas_cons, List.cons_append]
  have next := skipBlanks_of areBlanks solid inside
  unfold closeList
  dsimp only
  rw [next]
  dsimp only
  rw [if_neg notEnd]
  split <;> exact ⟨_, rfl⟩

theorem readList_overfull {part : Item} {parts : List (List UInt8)} (index : Nat) (draft : σ)
    (written : Written part.value part.text) (spaced : part.Spaced) (blanks : Blanks before)
    (found : c.rest = before ++ (among first (part.bytes :: parts) ++ tail)) :
    ∃ fault, form.readList first index draft c [] = .error fault := by
  obtain ⟨cause, wrong⟩ := closeList_more written spaced blanks found
  exact settle_cause (form.finish draft) wrong

theorem readList_missing {field : Field σ} {fields : List (Field σ)} {index : Nat} {c' : Cursor}
    (next : nextElement first c = .ok (false, c')) (required : field.required = true) :
    ∃ fault, form.readList first index draft c (field :: fields) = .error fault := by
  rw [RecordForm.readList, RecordForm.readPositions, next]
  dsimp only
  rw [required, if_pos rfl]
  exact ⟨_, settle_complaint _ _⟩

/-- An element goes into its field, and the others are read into the draft that this makes. -/
theorem RecordForm.Lawful.readList_part (laws : form.Lawful slots) {index : Nat} {part : Item}
    {parts : List (List UInt8)} {fields : List (Field σ)} (wants : σ → α → Prop)
    (member : slot ∈ slots) (written : Written part.value part.text) (spaced : part.Spaced)
    (blanks : Blanks before)
    (found : c.rest = before ++
      (among first (part.bytes :: parts) ++ Bracket.list.closing :: rest))
    (others : ∀ content (after : Cursor), slot.means part.value content →
      after.rest = part.after ++ (among false parts ++ Bracket.list.closing :: rest) →
        Faithful (form.readList false (index + 1) (slot.set draft content) after fields)
          (wants (slot.set draft content)) rest) :
    Faithful (form.readList first index draft c (slot.field :: fields))
      (fun record => ∃ content, slot.means part.value content ∧
        wants (slot.set draft content) record) rest := by
  obtain ⟨start, next, foundPart⟩ := nextElement_of written spaced blanks found
  have faithful := (laws.reads slot member).map (slot.set draft) written blanks_nil
    (spaced.2.ends_append (ends_behindCommas _ .list _)) foundPart
  have goesOn (filled : σ) (after : Cursor)
      (meant : ∃ content, slot.means part.value content ∧ filled = slot.set draft content)
      (behind : after.rest =
        part.after ++ (behindCommas parts ++ Bracket.list.closing :: rest)) :
      Faithful (form.readList false (index + 1) filled after fields) (wants filled) rest := by
    obtain ⟨content, means, rfl⟩ := meant
    exact others content after means behind
  rw [readList_more next]
  refine (faithful.bind goesOn).congr fun record => ?_
  constructor
  · rintro ⟨content, meant, wanted⟩
    exact ⟨_, ⟨content, meant, rfl⟩, wanted⟩
  · rintro ⟨_, ⟨content, meant, rfl⟩, wanted⟩
    exact ⟨content, meant, wanted⟩

/-- A field that is filled leaves those behind it as empty as they were. -/
theorem RecordForm.Lawful.empty_set (laws : form.Lawful slots) {left : List (Slot σ)}
    (listed : ∀ other ∈ slot :: left, other ∈ slots)
    (names : ((slot :: left).map Slot.name).Nodup)
    (empty : ∀ other ∈ slot :: left, other.get draft = none) (content : slot.Content) :
    ∀ other ∈ left, other.get (slot.set draft content) = none := by
  intro other inside
  have different : slot.name ≠ other.name := by
    intro same
    exact (List.nodup_cons.mp names).1 (same ▸ List.mem_map_of_mem inside)
  rw [laws.lawful.apart slot (listed slot (by simp)) other (listed other (by simp [inside]))
    different]
  exact empty other (by simp [inside])

theorem RecordForm.Lawful.readList_of (laws : form.Lawful slots) (index : Nat) (draft : σ)
    {left : List (Slot σ)} (listed : ∀ slot ∈ left, slot ∈ slots)
    (names : (left.map Slot.name).Nodup) (empty : ∀ slot ∈ left, slot.get draft = none)
    {parts : List Item} (spaced : ∀ part ∈ parts, part.Spaced)
    (written : ∀ part ∈ parts, Written part.value part.text) (blanks : Blanks before)
    (found : c.rest = before ++
      (among first (parts.map Item.bytes) ++ Bracket.list.closing :: rest)) :
    Faithful (form.readList first index draft c (left.map Slot.field))
      (fun record => ∃ result, (parts.length ≤ left.length ∧
        Gathers slots result draft ((left.map Slot.name).zip (parts.map Item.value))) ∧
          form.finish result = .ok record) rest := by
  induction left generalizing first index draft c before parts with
  | nil =>
      cases parts with
      | nil =>
          rw [List.map_nil, among_nil, List.nil_append] at found
          obtain ⟨c', closed, behind⟩ := closeList_of blanks found
          exact (settle_finish closed behind).congr fun record => by simp [Gathers]
      | cons part parts =>
          obtain ⟨fault, failed⟩ := readList_overfull index draft
            (written part List.mem_cons_self) (spaced part List.mem_cons_self) blanks found
          rw [List.map_nil, failed]
          rintro record ⟨result, ⟨short, _⟩, _⟩
          simp at short
  | cons slot left ih =>
      obtain ⟨member, listedLeft⟩ := List.forall_mem_cons.mp listed
      obtain ⟨slotEmpty, emptyLeft⟩ := List.forall_mem_cons.mp empty
      have namesLeft := (List.nodup_cons.mp names).2
      rw [List.map_cons]
      cases parts with
      | nil =>
          rw [List.map_nil, among_nil, List.nil_append] at found
          obtain ⟨c', next, behind⟩ := nextElement_end blanks found
          by_cases required : slot.required = true
          · obtain ⟨fault, failed⟩ := readList_missing next
              (show slot.field.required = true from required)
            rw [failed]
            rintro record ⟨result, ⟨_, gathers⟩, finished⟩
            rw [List.map_nil, List.zip_nil_right, Gathers] at gathers
            subst gathers
            exact laws.complete _ record finished slot member required slotEmpty
          · have noParts : c'.rest = [] ++
                (among first (([] : List Item).map Item.bytes) ++ Bracket.list.closing :: rest) := by
              rw [List.map_nil, among_nil]
              exact behind
            have others := ih (index + 1) draft listedLeft namesLeft emptyLeft (by simp) (by simp)
              blanks_nil noParts
            rw [readList_short next (Bool.eq_false_iff.mpr required)]
            refine others.congr fun record => ?_
            simp only [List.map_nil, List.zip_nil_right, List.length_nil, Nat.zero_le, true_and]
      | cons part parts =>
          obtain ⟨partSpaced, moreSpaced⟩ := List.forall_mem_cons.mp spaced
          obtain ⟨partWritten, moreWritten⟩ := List.forall_mem_cons.mp written
          refine (laws.readList_part (fun filled record => ∃ result, (parts.length ≤ left.length ∧
              Gathers slots result filled ((left.map Slot.name).zip (parts.map Item.value))) ∧
                form.finish result = .ok record) member partWritten partSpaced blanks found
            fun content after meant behind => ih (index + 1) (slot.set draft content) listedLeft
              namesLeft (laws.empty_set listed names empty content) moreSpaced moreWritten
                partSpaced.2 behind).congr fun record => ?_
          rw [List.map_cons, List.map_cons, List.zip_cons_cons]
          simp only [laws.lawful.gathers_field member, List.length_cons, Nat.add_le_add_iff_right]
          constructor
          · rintro ⟨result, ⟨short, _, content, meant, gathers⟩, finished⟩
            exact ⟨content, meant, result, ⟨short, gathers⟩, finished⟩
          · rintro ⟨content, meant, result, ⟨short, gathers⟩, finished⟩
            exact ⟨result, ⟨short, slotEmpty, content, meant, gathers⟩, finished⟩

end Positions

section Reader

/-- The record that a value stands for: the values of its fields are in a draft, and the record is made
of the draft. -/
def RecordForm.Means (form : RecordForm σ α) (slots : List (Slot σ)) (value : Value) (record : α) :
    Prop :=
  ∃ draft, form.finish draft = .ok record ∧
    ∃ found, value.Fields (slots.map Slot.name) found ∧
      List.Forall₂ (fun slot value => slot.Holds draft value) slots found

theorem Written.entries {members : List (String × Value)} {text : List UInt8}
    (written : Written (.object members) text) :
    ∃ (blanks : List UInt8) (entries : List Member), Blanks blanks ∧
      (∀ entry ∈ entries, entry.Spaced) ∧
      (∀ entry ∈ entries, Written entry.item.value entry.item.text) ∧
      members = entries.map Member.pair ∧
      text = openObject ::
        (blanks ++ (among true (entries.map Member.bytes) ++ [Bracket.object.closing])) := by
  cases written with
  | emptyObject blanks => exact ⟨_, [], blanks, by simp, by simp, rfl, rfl⟩
  | object first more spaced written =>
      refine ⟨[], first :: more, blanks_nil, spaced, written, rfl, ?_⟩
      rw [List.map_cons, among_cons, List.nil_append, List.append_assoc]
      rfl

theorem RecordForm.Lawful.reads_list (laws : form.Lawful slots) {items : List Value}
    {text : List UInt8} (written : Written (.list items) text) (found : c.rest = text ++ rest) :
    Faithful (form.readList true 0 form.blank (c.drop 1) form.fields)
      (form.Means slots (.list items)) rest := by
  obtain ⟨blanks, parts, areBlanks, spaced, eachWritten, rfl, rfl⟩ := written.parts
  have inside : (c.drop 1).rest = blanks ++
      (among true (parts.map Item.bytes) ++ Bracket.list.closing :: rest) := by
    rw [Cursor.drop_rest, found]
    simp
  have faithful := laws.readList_of 0 form.blank (fun slot member => member) laws.lawful.names
    laws.blank spaced eachWritten areBlanks inside
  rw [← laws.fields] at faithful
  refine faithful.congr fun record => exists_congr fun draft => ?_
  have fields := laws.lawful.gathers_zip_iff laws.blank draft (parts.map Item.value)
  rw [List.length_map] at fields
  rw [fields, and_comm]

theorem RecordForm.Lawful.reads_object (laws : form.Lawful slots) {members : List (String × Value)}
    {text : List UInt8} (written : Written (.object members) text) (found : c.rest = text ++ rest) :
    Faithful (form.readObject true form.blank (c.drop 1)) (form.Means slots (.object members))
      rest := by
  obtain ⟨blanks, entries, areBlanks, spaced, eachWritten, rfl, rfl⟩ := written.entries
  have inside : (c.drop 1).rest = blanks ++
      (among true (entries.map Member.bytes) ++ Bracket.object.closing :: rest) := by
    rw [Cursor.drop_rest, found]
    simp
  have faithful := laws.readObject_of form.blank spaced eachWritten areBlanks inside
  refine faithful.congr fun record => exists_congr fun draft => ?_
  rw [laws.lawful.gathers_iff laws.blank, and_comm]

/-- A record is read from the values of its fields, in an object or in a list. -/
theorem RecordForm.Lawful.reader_reads (laws : form.Lawful slots) :
    form.reader.Reads (form.Means slots) := by
  apply reads_ofFirst
  intro value text rest c byte written begins ends found
  by_cases list : byte = openList
  · rw [if_pos list]
    obtain ⟨items, rfl⟩ := begins.known.list list
    exact laws.reads_list written found
  · rw [if_neg list]
    by_cases object : byte = openObject
    · rw [if_pos object]
      obtain ⟨members, rfl⟩ := begins.known.object object
      exact laws.reads_object written found
    · rw [if_neg object]
      rintro record ⟨_, _, found, fields, _⟩
      cases fields with
      | positional => exact list begins
      | keyed => exact object begins

end Reader

theorem readDocument_eq_ok_iff {reader : Reader α} {feed : Feed} {document : List UInt8} {value : α} :
    reader.readDocument feed document = .ok value ↔
      ∃ c, reader.run (.start feed document) = .ok (value, c) ∧ Blanks c.rest := by
  unfold Reader.readDocument
  cases reader.run (.start feed document) with
  | error fault => simp
  | ok found =>
      obtain ⟨found, c⟩ := found
      constructor
      · intro read
        dsimp only at read
        split at read
        · rename_i blanks
          cases read
          exact ⟨c, rfl, skipBlanks_isEmpty_iff.mp blanks⟩
        · cases read
      · rintro ⟨c', same, blanks⟩
        cases same
        exact if_pos (skipBlanks_isEmpty_iff.mpr blanks)

theorem Reader.Reads.readDocument {reader : Reader α} {means : Value → α → Prop}
    (reads : reader.Reads means) {value : Value} {bytes : List UInt8} (document : Document value bytes)
    (feed : Feed) (found : α) :
    reader.readDocument feed bytes = .ok found ↔ means value found := by
  cases document with
  | mk item spaced written =>
      have start : (Cursor.start feed item.bytes).rest =
          item.before ++ (item.text ++ item.after) :=
        Cursor.start_rest feed _
      have ends : Ends item.after := by
        rw [← List.append_nil item.after]
        exact spaced.2.ends_append ends_nil
      have faithful := reads written spaced.1 ends start
      unfold Reader.readDocument
      cases run : reader.run (Cursor.start feed item.bytes) with
      | error fault =>
          rw [run] at faithful
          simp [faithful found]
      | ok result =>
          obtain ⟨value, c⟩ := result
          rw [run] at faithful
          obtain ⟨only, left⟩ := faithful
          have empty : c.skipBlanks.rest = [] := skipBlanks_all spaced.2 left
          simp [only found, empty, eq_comm]

end HeapGraph.Json

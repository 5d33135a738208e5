import HeapGraph.Proofs.Json.Skipping
import Mathlib.Data.List.Forall2

/-!
Readers of single values and of lists. On the text of a value, a reader gives what the value means to
it and leaves what stands behind the text; where the value means nothing to it, it fails.
-/

namespace HeapGraph.Json

variable {α β : Type}

section Faithful

/-- The result is the one thing that is meant, with `rest` left, or a fault where nothing is meant. -/
def Faithful (result : Except Fault (α × Cursor)) (means : α → Prop) (rest : List UInt8) : Prop :=
  match result with
  | .ok (found, c) => (∀ other, means other ↔ other = found) ∧ c.rest = rest
  | .error _ => ∀ other, ¬means other

/-- Before a value, with blanks between, a reader is faithful to what the value means to it. -/
def Reader.Reads (reader : Reader α) (means : Value → α → Prop) : Prop :=
  ∀ ⦃value : Value⦄ ⦃text before rest : List UInt8⦄ ⦃c : Cursor⦄, Written value text →
    Blanks before → Ends rest → c.rest = before ++ (text ++ rest) →
      Faithful (reader.run c) (means value) rest

variable {result : Except Fault (α × Cursor)} {means other : α → Prop} {rest : List UInt8}

theorem Faithful.congr (faithful : Faithful result means rest)
    (same : ∀ value, other value ↔ means value) : Faithful result other rest := by
  cases result with
  | error fault => exact fun value meant => faithful value ((same value).mp meant)
  | ok found => exact ⟨fun value => (same value).trans (faithful.1 value), faithful.2⟩

theorem Faithful.ok {value : α} {c : Cursor} (only : ∀ other, means other ↔ other = value)
    (left : c.rest = rest) : Faithful (.ok (value, c)) means rest :=
  ⟨only, left⟩

/-- What is read in two steps, where the second goes on from what the first has found. -/
theorem Faithful.bind {left : List UInt8} {next : α → Cursor → Except Fault (β × Cursor)}
    {wants : α → β → Prop} (faithful : Faithful result means rest)
    (goes : ∀ value (c : Cursor), means value → c.rest = rest → Faithful (next value c) (wants value) left) :
    Faithful (match result with
      | .error fault => .error fault
      | .ok (value, c) => next value c) (fun found => ∃ value, means value ∧ wants value found)
      left := by
  cases result with
  | error fault =>
      rintro found ⟨value, meant, _⟩
      exact faithful value meant
  | ok reached =>
      obtain ⟨value, c⟩ := reached
      obtain ⟨only, behind⟩ := faithful
      have meant := (only value).mpr rfl
      refine (goes value c meant behind).congr fun found => ⟨?_, fun wanted => ⟨value, meant, wanted⟩⟩
      rintro ⟨other, otherMeant, wanted⟩
      rwa [(only other).mp otherMeant] at wanted

theorem Faithful.map {f : α → β} (faithful : Faithful result means rest) :
    Faithful (match result with
      | .error fault => .error fault
      | .ok (value, c) => .ok (f value, c)) (fun image => ∃ value, means value ∧ image = f value)
      rest :=
  faithful.bind fun _ _ _ left => Faithful.ok (fun _ => Iff.rfl) left

theorem Reader.Reads.congr {reader : Reader α} {means other : Value → α → Prop}
    (reads : reader.Reads means) (same : ∀ value found, other value found ↔ means value found) :
    reader.Reads other :=
  fun value _ _ _ _ written blanks ends found => (reads written blanks ends found).congr (same value)

theorem Reader.Reads.map {reader : Reader α} {means : Value → α → Prop} (reads : reader.Reads means)
    (f : α → β) :
    (reader.map f).Reads fun value image => ∃ found, means value found ∧ image = f found :=
  fun _ _ _ _ _ written blanks ends found => (reads written blanks ends found).map

end Faithful

section Scalars

variable {c : Cursor} {rest : List UInt8} {byte : UInt8} {value : Value}

theorem reads_ofFirst {read : UInt8 → Cursor → Except Fault (α × Cursor)}
    {advances : ∀ {byte : UInt8} {rest : List UInt8} {c c' : Cursor} {value : α},
      c.rest = byte :: rest → read byte c = .ok (value, c') → c'.rest.length < c.rest.length}
    {means : Value → α → Prop}
    (reads : ∀ {value : Value} {text rest : List UInt8} {c : Cursor} {byte : UInt8},
      Written value text → value.Begins byte → Ends rest → c.rest = text ++ rest →
        Faithful (read byte c) (means value) rest) :
    (Reader.ofFirst read @advances).Reads means := by
  intro value text before rest c written blanks ends found
  obtain ⟨byte, tail, same, begins⟩ := written.begins
  have solid : byte ∉ word " \t\n\r" := begins.not_mem (by decide)
  have first := skipBlanks_of blanks solid (by rw [found, same, List.cons_append])
  have faithful := reads (c := c.skipBlanks) written begins ends
    (by rw [first, same, List.cons_append])
  unfold Reader.ofFirst
  dsimp only
  rw [first]
  exact faithful

theorem startsNumber_iff : startsNumber byte = true ↔
    byte = ascii '-' ∨ (ascii '0' ≤ byte ∧ byte ≤ ascii '9') := by
  rw [startsNumber, Bool.or_eq_true, isDigit_iff, decide_eq_true_eq]
  rfl

structure Value.Known (value : Value) (byte : UInt8) : Prop where
  null : byte = 0x6E → value = .null
  positive : byte = 0x74 → value = .boolean true
  negative : byte = 0x66 → value = .boolean false
  number : startsNumber byte = true → ∃ numeral, value = .number numeral
  string : byte = quotationMark → ∃ text, value = .string text
  list : byte = openList → ∃ items, value = .list items
  object : byte = openObject → ∃ members, value = .object members

theorem Value.Begins.known (begins : value.Begins byte) : value.Known byte := by
  cases value with
  | null =>
      cases begins
      constructor <;> intro same <;> first | rfl | exact absurd same (by decide)
  | boolean flag =>
      cases flag <;> cases begins <;> constructor <;> intro same <;>
        first | rfl | exact absurd same (by decide)
  | number numeral =>
      have starts := startsNumber_iff.mpr begins
      constructor <;> intro same <;>
        first | exact ⟨numeral, rfl⟩ | exact absurd starts (by rw [same]; decide)
  | string text =>
      cases begins
      constructor <;> intro same <;> first | exact ⟨text, rfl⟩ | exact absurd same (by decide)
  | list items =>
      cases begins
      constructor <;> intro same <;> first | exact ⟨items, rfl⟩ | exact absurd same (by decide)
  | object members =>
      cases begins
      constructor <;> intro same <;> first | exact ⟨members, rfl⟩ | exact absurd same (by decide)

theorem string_reads : string.Reads fun value text => value = .string text := by
  apply reads_ofFirst
  intro value text rest c byte written begins ends found
  by_cases mark : byte = quotationMark
  · rw [if_pos mark]
    obtain ⟨content, rfl⟩ := begins.known.string mark
    cases written with
    | string quoted =>
        obtain ⟨c', read, left⟩ := readQuoted_of quoted found
        rw [read]
        exact Faithful.ok (by simp [eq_comm]) left
  · rw [if_neg mark]
    rintro other rfl
    exact mark begins

theorem readWord_of (letters : List UInt8) (value : α) (found : c.rest = byte :: (letters ++ rest)) :
    ∃ c', readWord letters value c = .ok (value, c') ∧ c'.rest = rest := by
  have behind : (c.drop 1).rest = letters ++ rest := by simp [found]
  obtain ⟨c', read, left⟩ := readLiteral_of behind
  exact ⟨c', by rw [readWord, read], left⟩

theorem stringOrNull_reads :
    stringOrNull.Reads fun value text =>
      (value = .null ∧ text = none) ∨ ∃ content, value = .string content ∧ text = some content := by
  apply reads_ofFirst
  intro value text rest c byte written begins ends found
  by_cases letter : byte = 0x6E
  · rw [if_pos letter]
    cases begins.known.null letter
    cases written with
    | null =>
        obtain ⟨c', read, left⟩ := readWord_of restOfNull (none : Option String) found
        rw [read]
        exact Faithful.ok (by simp) left
  · rw [if_neg letter]
    by_cases mark : byte = quotationMark
    · rw [if_pos mark]
      obtain ⟨content, rfl⟩ := begins.known.string mark
      cases written with
      | string quoted =>
          obtain ⟨c', read, left⟩ := readQuoted_of quoted found
          rw [read]
          exact Faithful.ok (by simp) left
    · rw [if_neg mark]
      rintro other (⟨rfl, _⟩ | ⟨content, rfl, _⟩)
      · exact letter begins
      · exact mark begins

theorem boolean_reads : boolean.Reads fun value flag => value = .boolean flag := by
  apply reads_ofFirst
  intro value text rest c byte written begins ends found
  by_cases positive : byte = 0x74
  · rw [if_pos positive]
    cases begins.known.positive positive
    cases written with
    | boolean =>
        obtain ⟨c', read, left⟩ := readWord_of restOfTrue true found
        rw [read]
        exact Faithful.ok (by simp [eq_comm]) left
  · rw [if_neg positive]
    by_cases negative : byte = 0x66
    · rw [if_pos negative]
      cases begins.known.negative negative
      cases written with
      | boolean =>
          obtain ⟨c', read, left⟩ := readWord_of restOfFalse false found
          rw [read]
          exact Faithful.ok (by simp [eq_comm]) left
    · rw [if_neg negative]
      rintro flag rfl
      cases flag with
      | true => exact positive begins
      | false => exact negative begins

def Value.IsOctet (value : Value) (octet : UInt8) : Prop :=
  ∃ numeral, value = .number numeral ∧ numeral.Plain ∧ numeral.whole.value = octet.toNat

theorem octetOf_unnatural (c : Cursor) (number : Number) (unnatural : ∀ value, number ≠ .natural value) :
    ∃ fault, octetOf number c = .error fault := by
  cases number with
  | natural value => exact absurd rfl (unnatural value)
  | negative value => exact ⟨_, rfl⟩
  | decimal value => exact ⟨_, rfl⟩

theorem readOctet_of {numeral : Numeral} (ends : Ends rest)
    (found : c.rest = numeral.bytes ++ rest) :
    Faithful (match readNumber c with
      | .error fault => .error fault
      | .ok (number, c) => octetOf number c) (Value.number numeral).IsOctet rest := by
  have isOctet (octet : UInt8) : (Value.number numeral).IsOctet octet ↔
      numeral.Plain ∧ numeral.whole.value = octet.toNat := by
    simp [Value.IsOctet]
  rcases readNumber_of ends found with ⟨plain, fits, c', read, left⟩ | ⟨other, unnatural⟩
  · rw [read]
    dsimp only [octetOf]
    by_cases small : numeral.whole.value < 256
    · rw [if_pos small]
      refine Faithful.ok (fun octet => ?_) left
      rw [isOctet, and_iff_right plain, ← UInt8.toNat_inj, toNat_ofNat_of_lt small, eq_comm]
    · rw [if_neg small]
      rintro octet meant
      rw [isOctet] at meant
      have bound := octet.toNat_lt
      omega
  · have nothing (octet : UInt8) : ¬(Value.number numeral).IsOctet octet := by
      intro meant
      rw [isOctet] at meant
      have bound := octet.toNat_lt
      have fits : numeral.whole.value ≤ significandLimit := by
        unfold significandLimit
        omega
      exact other ⟨meant.1, fits⟩
    cases read : readNumber c with
    | error fault => exact nothing
    | ok found =>
        obtain ⟨number, c'⟩ := found
        obtain ⟨fault, failed⟩ := octetOf_unnatural c' number (by
          rintro value rfl
          exact unnatural value c' read)
        dsimp only
        rw [failed]
        exact nothing

theorem octet_reads : octet.Reads Value.IsOctet := by
  apply reads_ofFirst
  intro value text rest c byte written begins ends found
  by_cases starts : startsNumber byte = true
  · rw [if_pos starts]
    obtain ⟨numeral, rfl⟩ := begins.known.number starts
    cases written with
    | number => exact readOctet_of ends found
  · rw [if_neg starts]
    rintro octet ⟨numeral, rfl, _⟩
    exact starts (startsNumber_iff.mpr begins)

end Scalars

section Lists

variable {c : Cursor} {before rest tail : List UInt8} {item : Reader α}
  {means : Value → α → Prop} {first : Bool} {taken : List α}

/-- Parts with commas between them, and one more before them unless they are the first ones. -/
def among (first : Bool) (parts : List (List UInt8)) : List UInt8 :=
  if first then (behindCommas parts).drop 1 else behindCommas parts

theorem among_nil (first : Bool) : among first [] = [] := by
  cases first <;> rfl

theorem among_cons (part : List UInt8) (parts : List (List UInt8)) :
    among true (part :: parts) = part ++ behindCommas parts := by
  rw [among, if_pos rfl, behindCommas_cons]
  rfl

theorem Blanks.append {more : List UInt8} (blanks : Blanks before) (others : Blanks more) :
    Blanks (before ++ more) := by
  intro byte member
  rcases List.mem_append.mp member with left | right
  · exact blanks byte left
  · exact others byte right

theorem nextElement_end (blanks : Blanks before)
    (found : c.rest = before ++ Bracket.list.closing :: rest) :
    ∃ c', nextElement first c = .ok (false, c') ∧ c'.rest = Bracket.list.closing :: rest := by
  have next := skipBlanks_of blanks (by decide) found
  refine ⟨c.skipBlanks, ?_, next⟩
  unfold nextElement
  dsimp only
  rw [next]
  exact if_pos rfl

theorem nextElement_of {part : Item} {parts : List (List UInt8)}
    (written : Written part.value part.text) (spaced : part.Spaced) (blanks : Blanks before)
    (found : c.rest = before ++ (among first (part.bytes :: parts) ++ tail)) :
    ∃ c', nextElement first c = .ok (true, c') ∧
      c'.rest = part.text ++ (part.after ++ (behindCommas parts ++ tail)) := by
  obtain ⟨byte, letters, same, begins⟩ := written.begins
  have solid : byte ∉ word " \t\n\r" := begins.not_mem (by decide)
  have notEnd : byte ≠ Bracket.list.closing := by
    rintro rfl
    exact begins.solid (by decide)
  -- What comes once the blanks before the element are gone.
  have behind : part.text ++ (part.after ++ (behindCommas parts ++ tail)) =
      byte :: (letters ++ (part.after ++ (behindCommas parts ++ tail))) := by
    rw [same, List.cons_append]
  cases first with
  | true =>
      have inside : c.rest = (before ++ part.before) ++
          byte :: (letters ++ (part.after ++ (behindCommas parts ++ tail))) := by
        rw [found, among_cons, Item.bytes, same]
        simp only [List.append_assoc, List.cons_append]
      have next := skipBlanks_of (blanks.append spaced.1) solid inside
      refine ⟨c.skipBlanks, ?_, by rw [next, behind]⟩
      unfold nextElement
      dsimp only
      rw [next]
      dsimp only
      rw [if_neg notEnd, if_pos rfl]
  | false =>
      have inside : c.rest = before ++ comma :: (part.before ++
          byte :: (letters ++ (part.after ++ (behindCommas parts ++ tail)))) := by
        rw [found, among, if_neg (by decide), behindCommas_cons, Item.bytes, same]
        simp only [List.append_assoc, List.cons_append]
      have mark := skipBlanks_of blanks (by decide) inside
      have next := skipBlanks_of spaced.1 solid (c := c.skipBlanks.drop 1)
        (by rw [Cursor.drop_rest, mark]; rfl)
      refine ⟨(c.skipBlanks.drop 1).skipBlanks, ?_, by rw [next, behind]⟩
      unfold nextElement
      dsimp only
      rw [mark]
      dsimp only
      rw [if_neg (by decide), if_neg (by decide), if_pos rfl, next]
      dsimp only
      rw [if_neg notEnd]

theorem closeList_of (blanks : Blanks before)
    (found : c.rest = before ++ Bracket.list.closing :: rest) :
    ∃ c', closeList c = (none, c') ∧ c'.rest = rest := by
  have next := skipBlanks_of blanks (by decide) found
  refine ⟨c.skipBlanks.drop 1, ?_, by simp [next]⟩
  unfold closeList
  dsimp only
  rw [next]
  exact if_pos rfl

theorem readElements_end {c' : Cursor} (next : nextElement first c = .ok (false, c')) :
    readElements item first taken c = .ok (taken.reverse, c') := by
  rw [readElements]
  split <;> rename_i again <;> rw [next] at again <;> cases again
  rfl

theorem readElements_more {c' : Cursor} (next : nextElement first c = .ok (true, c')) :
    readElements item first taken c =
      match item.run c' with
      | .error fault => .error fault
      | .ok (value, after) => readElements item false (value :: taken) after := by
  rw [readElements]
  split <;> rename_i again <;> rw [next] at again <;> cases again
  split <;> rename_i run <;> rw [run]

theorem readElements_of (taken : List α) (reads : item.Reads means) {parts : List Item}
    (spaced : ∀ part ∈ parts, part.Spaced) (written : ∀ part ∈ parts, Written part.value part.text)
    (blanks : Blanks before) (found : c.rest = before ++
      (among first (parts.map Item.bytes) ++ Bracket.list.closing :: rest)) :
    Faithful (readElements item first taken c)
      (fun values => ∃ more, List.Forall₂ means (parts.map Item.value) more ∧
        values = taken.reverse ++ more) (Bracket.list.closing :: rest) := by
  induction parts generalizing first taken c before with
  | nil =>
      rw [List.map_nil, among_nil, List.nil_append] at found
      obtain ⟨c', next, left⟩ := nextElement_end blanks found
      rw [readElements_end next]
      exact Faithful.ok (by simp [List.forall₂_nil_left_iff]) left
  | cons part parts ih =>
      obtain ⟨partSpaced, moreSpaced⟩ := List.forall_mem_cons.mp spaced
      obtain ⟨partWritten, moreWritten⟩ := List.forall_mem_cons.mp written
      obtain ⟨start, next, foundPart⟩ := nextElement_of partWritten partSpaced blanks found
      have faithful := reads partWritten blanks_nil
        (partSpaced.2.ends_append (ends_behindCommas _ .list _)) foundPart
      have others (value : α) {after : Cursor} (left : after.rest = part.after ++
          (among false (parts.map Item.bytes) ++ Bracket.list.closing :: rest)) :=
        ih (value :: taken) moreSpaced moreWritten partSpaced.2 left
      rw [readElements_more next]
      refine (faithful.bind fun value _ _ left => others value left).congr fun values => ?_
      rw [List.map_cons]
      constructor
      · rintro ⟨more, matching, rfl⟩
        cases matching with
        | cons meant matching => exact ⟨_, meant, _, matching, by simp⟩
      · rintro ⟨value, meant, more, matching, rfl⟩
        exact ⟨value :: more, .cons meant matching, by simp⟩

/-- The text of a list, taken apart into the places for its elements. -/
theorem Written.parts {items : List Value} {text : List UInt8} (written : Written (.list items) text) :
    ∃ (blanks : List UInt8) (parts : List Item), Blanks blanks ∧ (∀ part ∈ parts, part.Spaced) ∧
      (∀ part ∈ parts, Written part.value part.text) ∧ items = parts.map Item.value ∧
      text = openList ::
        (blanks ++ (among true (parts.map Item.bytes) ++ [Bracket.list.closing])) := by
  cases written with
  | emptyList blanks => exact ⟨_, [], blanks, by simp, by simp, rfl, rfl⟩
  | list first more spaced written =>
      refine ⟨[], first :: more, blanks_nil, spaced, written, rfl, ?_⟩
      rw [List.map_cons, among_cons, List.nil_append, List.append_assoc]
      rfl

theorem list_reads (reads : item.Reads means) :
    (list item).Reads fun value found =>
      ∃ items, value = .list items ∧ List.Forall₂ means items found := by
  apply reads_ofFirst
  intro value text rest c byte written begins ends found
  by_cases bracket : byte = openList
  · rw [if_pos bracket]
    obtain ⟨items, rfl⟩ := begins.known.list bracket
    obtain ⟨blanks, parts, areBlanks, spaced, eachWritten, rfl, rfl⟩ := written.parts
    have inside : (c.drop 1).rest = blanks ++
        (among true (parts.map Item.bytes) ++ Bracket.list.closing :: rest) := by
      rw [Cursor.drop_rest, found]
      simp
    have faithful := readElements_of [] reads spaced eachWritten areBlanks inside
    cases elements : readElements item true [] (c.drop 1) with
    | error fault =>
        rw [elements] at faithful
        rintro values ⟨items, same, matching⟩
        cases same
        exact faithful values ⟨values, matching, rfl⟩
    | ok result =>
        obtain ⟨values, after⟩ := result
        rw [elements] at faithful
        obtain ⟨only, left⟩ := faithful
        obtain ⟨c', closed, behind⟩ := closeList_of blanks_nil left
        dsimp only
        rw [closed]
        refine Faithful.ok (fun other => ?_) behind
        rw [← only other]
        simp
  · rw [if_neg bracket]
    rintro values ⟨items, rfl, _⟩
    exact bracket begins

end Lists

end HeapGraph.Json

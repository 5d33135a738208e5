import HeapGraph.Proofs.Json.Numerals
import HeapGraph.Proofs.Json.Quoted

/-!
Values that are skipped. However deeply a value is nested, skipping takes its text and nothing behind
it, with as many brackets open afterwards as before.
-/

namespace HeapGraph.Json

variable {c : Cursor} {before rest : List UInt8} {byte : UInt8}

section Scalars

theorem readLiteral_of {letters : List UInt8} (found : c.rest = letters ++ rest) :
    ∃ c', readLiteral letters c = .ok c' ∧ c'.rest = rest := by
  induction letters generalizing c with
  | nil => exact ⟨c, rfl, found⟩
  | cons letter letters ih =>
      obtain ⟨c', read, left⟩ := ih (c := c.drop 1) (by simp [found])
      refine ⟨c', ?_, left⟩
      rw [readLiteral, found, List.cons_append]
      dsimp only
      rw [if_pos rfl, read]

theorem skipScalar_word (letters : List UInt8) (listed : restOfWord? byte = some letters)
    (found : c.rest = byte :: (letters ++ rest)) :
    ∃ c', skipScalar byte c = .ok c' ∧ c'.rest = rest := by
  have behind : (c.drop 1).rest = letters ++ rest := by simp [found]
  obtain ⟨c', read, left⟩ := readLiteral_of behind
  refine ⟨c', ?_, left⟩
  unfold skipScalar
  rw [listed]
  exact read

theorem restOfWord?_of_isDigit (digit : isDigit byte = true) :
    restOfWord? byte = none ∧ byte ≠ minus := by
  have apart : [0x6E, 0x74, 0x66, minus].all (!isDigit ·) = true := by decide
  have other {letter : UInt8} (listed : letter ∈ [0x6E, 0x74, 0x66, minus]) : byte ≠ letter := by
    rintro rfl
    simpa [digit] using List.all_eq_true.mp apart byte listed
  refine ⟨?_, other (by simp)⟩
  unfold restOfWord?
  rw [if_neg (other (by simp)), if_neg (other (by simp)), if_neg (other (by simp))]

theorem skipScalar_number {numeral : Numeral} (ends : Ends rest)
    (found : c.rest = numeral.bytes ++ rest) (first : c.rest.head? = some byte) :
    ∃ c', skipScalar byte c = .ok c' ∧ c'.rest = rest := by
  unfold skipScalar
  cases sign : numeral.negative with
  | true =>
      have left : c.rest = minus :: (numeral.whole.bytes ++
          (numeral.fractionBytes ++ (numeral.exponentBytes ++ rest))) := by
        rw [found, Numeral.bytes, Numeral.sign, sign, if_pos rfl]
        simp [word]
        rfl
      rw [left, List.head?_cons, Option.some_inj] at first
      rw [← first]
      exact skipUnsigned_of (c := c.drop 1) ends (by rw [Cursor.drop_rest, left]; rfl)
  | false =>
      have left : c.rest = numeral.whole.bytes ++
          (numeral.fractionBytes ++ (numeral.exponentBytes ++ rest)) := by
        rw [found, Numeral.bytes, Numeral.sign, sign]
        simp
      obtain ⟨digit, tail, same, range⟩ := numeral.whole.begins
      rw [left, same, List.cons_append, List.head?_cons, Option.some_inj] at first
      rw [first] at range
      have digit := isDigit_iff.mpr range
      obtain ⟨noWord, noSign⟩ := restOfWord?_of_isDigit digit
      rw [noWord]
      dsimp only
      rw [if_neg noSign, if_pos digit]
      exact skipUnsigned_of ends left

theorem skipScalar_string {text : String} {bytes : List UInt8} (quoted : Quoted text bytes)
    (found : c.rest = bytes ++ rest) :
    ∃ c', skipScalar quotationMark c = .ok c' ∧ c'.rest = rest :=
  skipString_of quoted found

end Scalars

section Keys

theorem readColon_of (blanks : Blanks before) (found : c.rest = before ++ colon :: rest) :
    ∃ c', readColon c = .ok c' ∧ c'.rest = rest := by
  have left := skipBlanks_of blanks (by decide) found
  refine ⟨c.skipBlanks.drop 1, ?_, by simp [left]⟩
  unfold readColon
  dsimp only
  rw [left]
  exact if_pos rfl

theorem Quoted.begins {text : String} {bytes : List UInt8} (quoted : Quoted text bytes) :
    ∃ tail, bytes = quotationMark :: tail := by
  cases quoted
  exact ⟨_, rfl⟩

theorem skipKey_of {key : String} {quoted between : List UInt8} (blanks : Blanks before)
    (written : Quoted key quoted) (spaced : Blanks between)
    (found : c.rest = before ++ (quoted ++ (between ++ colon :: rest))) :
    ∃ c', skipKey c = .ok c' ∧ c'.rest = rest := by
  obtain ⟨tail, same⟩ := written.begins
  have first : c.skipBlanks.rest = quotationMark :: (tail ++ (between ++ colon :: rest)) :=
    skipBlanks_of blanks (by decide) (by rw [found, same, List.cons_append])
  obtain ⟨next, skipped, left⟩ := skipString_of (c := c.skipBlanks) written
    (by rw [first, same, List.cons_append])
  obtain ⟨c', read, behind⟩ := readColon_of spaced left
  refine ⟨c', ?_, behind⟩
  unfold skipKey
  dsimp only
  rw [first]
  dsimp only
  rw [if_pos rfl, skipped]
  exact read

end Keys

section Steps

variable {stack : List Bracket} {bracket : Bracket}

def Bracket.opening : Bracket → UInt8
  | list => openList
  | object => openObject

def enter (bracket : Bracket) (stack : List Bracket) (c : Cursor) : Except Fault Cursor :=
  match bracket with
  | .list => skip .value (.list :: stack) c
  | .object =>
    match skipKey c with
    | .error fault => .error fault
    | .ok c => skip .value (.object :: stack) c

theorem skip_value (found : c.skipBlanks.rest = byte :: rest) :
    skip .value stack c =
      if byte = openList then skip .opened (.list :: stack) (c.skipBlanks.drop 1)
      else if byte = openObject then skip .opened (.object :: stack) (c.skipBlanks.drop 1)
      else
        match skipScalar byte c.skipBlanks with
        | .error fault => .error fault
        | .ok after => skip .following stack after := by
  rw [skip]
  split
  next none =>
    rw [found] at none
    cases none
  next first tail same =>
    rw [found] at same
    cases same
    cases skipScalar byte c.skipBlanks <;> rfl

theorem skip_opened (found : c.skipBlanks.rest = byte :: rest) :
    skip .opened (bracket :: stack) c =
      if byte = bracket.closing then skip .following stack (c.skipBlanks.drop 1)
      else enter bracket stack c.skipBlanks := by
  rw [skip.eq_def]
  dsimp only
  split
  next none =>
    rw [found] at none
    cases none
  next first tail same =>
    rw [found] at same
    cases same
    cases bracket with
    | list => rfl
    | object =>
        unfold enter
        cases skipKey c.skipBlanks <;> rfl

theorem skip_following (found : c.skipBlanks.rest = byte :: rest) :
    skip .following (bracket :: stack) c =
      if byte = bracket.closing then skip .following stack (c.skipBlanks.drop 1)
      else if byte = comma then enter bracket stack (c.skipBlanks.drop 1)
      else .error (c.skipBlanks.faultNext bracket.expectedCommaOrEnd) := by
  rw [skip.eq_def]
  dsimp only
  split
  next none =>
    rw [found] at none
    cases none
  next first tail same =>
    rw [found] at same
    cases same
    cases bracket with
    | list => rfl
    | object =>
        unfold enter
        cases skipKey (c.skipBlanks.drop 1) <;> rfl

theorem skip_scalar {c' : Cursor} (found : c.skipBlanks.rest = byte :: rest)
    (noList : byte ≠ openList) (noObject : byte ≠ openObject)
    (scalar : skipScalar byte c.skipBlanks = .ok c') :
    skip .value stack c = skip .following stack c' := by
  rw [skip_value found, if_neg noList, if_neg noObject, scalar]

theorem skip_open (found : c.skipBlanks.rest = bracket.opening :: rest) :
    skip .value stack c = skip .opened (bracket :: stack) (c.skipBlanks.drop 1) := by
  rw [skip_value found]
  cases bracket with
  | list => exact if_pos rfl
  | object => rw [if_neg (by decide), if_pos (by decide)]

theorem skip_close {awaiting : Awaiting} (inside : awaiting ≠ .value)
    (found : c.skipBlanks.rest = bracket.closing :: rest) :
    skip awaiting (bracket :: stack) c = skip .following stack (c.skipBlanks.drop 1) := by
  cases awaiting with
  | value => exact absurd rfl inside
  | opened => rw [skip_opened found, if_pos rfl]
  | following => rw [skip_following found, if_pos rfl]

end Steps

section Nesting

/-- Skipping takes this text of a value, and blanks before it. -/
def Skips (text : List UInt8) : Prop :=
  ∀ (stack : List Bracket) ⦃c : Cursor⦄ ⦃before rest : List UInt8⦄, Blanks before → Ends rest →
    c.rest = before ++ (text ++ rest) →
      ∃ c', skip .value stack c = skip .following stack c' ∧ c'.rest = rest

/-- Skipping takes this text of a part between brackets, but for blanks at its end. -/
def SkipsIn (bracket : Bracket) (part : List UInt8) : Prop :=
  ∀ (stack : List Bracket) ⦃c : Cursor⦄ ⦃rest : List UInt8⦄, Ends rest → c.rest = part ++ rest →
    ∃ blanks c', Blanks blanks ∧
      enter bracket stack c = skip .following (bracket :: stack) c' ∧ c'.rest = blanks ++ rest

variable (stack : List Bracket) {bracket : Bracket}

theorem Bracket.closing_ends (bracket : Bracket) : bracket.closing ∈ word " \t\n\r,]\x7d" := by
  cases bracket <;> decide

theorem Bracket.closing_solid (bracket : Bracket) : bracket.closing ∉ word " \t\n\r" := by
  cases bracket <;> decide

theorem behindCommas_cons (part : List UInt8) (parts : List (List UInt8)) :
    behindCommas (part :: parts) = comma :: (part ++ behindCommas parts) := by
  rw [behindCommas, List.flatMap_cons]
  rfl

theorem ends_behindCommas (parts : List (List UInt8)) (bracket : Bracket) (rest : List UInt8) :
    Ends (behindCommas parts ++ bracket.closing :: rest) := by
  cases parts with
  | nil => exact ends_cons bracket.closing_ends
  | cons part parts =>
      rw [behindCommas_cons]
      exact ends_cons (by decide)

theorem skip_parts {parts : List (List UInt8)} (each : ∀ part ∈ parts, SkipsIn bracket part)
    (blanks : Blanks before)
    (found : c.rest = before ++ (behindCommas parts ++ bracket.closing :: rest)) :
    ∃ c', skip .following (bracket :: stack) c = skip .following stack c' ∧ c'.rest = rest := by
  induction parts generalizing c before with
  | nil =>
      have close := skipBlanks_of blanks bracket.closing_solid found
      exact ⟨c.skipBlanks.drop 1, skip_close (by simp) close, by simp [close]⟩
  | cons part parts ih =>
      rw [behindCommas_cons, List.cons_append, List.append_assoc] at found
      have next := skipBlanks_of blanks (by decide) found
      have more : comma ≠ bracket.closing := by cases bracket <;> decide
      have inside : (c.skipBlanks.drop 1).rest =
          part ++ (behindCommas parts ++ bracket.closing :: rest) := by
        rw [Cursor.drop_rest, next]
        rfl
      obtain ⟨left, after, leftBlanks, entered, foundAfter⟩ :=
        each part List.mem_cons_self stack (ends_behindCommas parts bracket rest) inside
      obtain ⟨c', skipped, behind⟩ :=
        ih (fun other member => each other (List.mem_cons_of_mem part member)) leftBlanks foundAfter
      exact ⟨c', by rw [skip_following next, if_neg more, if_pos rfl, entered, skipped], behind⟩

theorem skip_inside {first : List UInt8} {parts : List (List UInt8)}
    (begins : first.head? = some byte) (solid : byte ∉ word " \t\n\r") (more : byte ≠ bracket.closing)
    (each : ∀ part ∈ first :: parts, SkipsIn bracket part) (blanks : Blanks before)
    (found : c.rest = before ++ (first ++ (behindCommas parts ++ bracket.closing :: rest))) :
    ∃ c', skip .opened (bracket :: stack) c = skip .following stack c' ∧ c'.rest = rest := by
  obtain ⟨tail, same⟩ := List.head?_eq_some_iff.mp begins
  rw [same, List.cons_append] at found
  have next := skipBlanks_of blanks solid found
  have inside : c.skipBlanks.rest = first ++ (behindCommas parts ++ bracket.closing :: rest) := by
    rw [next, same, List.cons_append]
  obtain ⟨left, after, leftBlanks, entered, foundAfter⟩ :=
    each first List.mem_cons_self stack (ends_behindCommas parts bracket rest) inside
  obtain ⟨c', skipped, behind⟩ := skip_parts stack
    (fun other member => each other (List.mem_cons_of_mem first member)) leftBlanks foundAfter
  exact ⟨c', by rw [skip_opened next, if_neg more, entered, skipped], behind⟩

theorem skipsIn_item {text after : List UInt8} (skips : Skips text) (leading : Blanks before)
    (trailing : Blanks after) : SkipsIn .list (before ++ (text ++ after)) := by
  intro stack c rest ends found
  have inside : c.rest = before ++ (text ++ (after ++ rest)) := by
    rw [found]
    simp only [List.append_assoc]
  obtain ⟨c', skipped, left⟩ := skips (.list :: stack) leading (trailing.ends_append ends) inside
  exact ⟨after, c', trailing, skipped, left⟩

theorem skipsIn_member {entry : Member} (skips : Skips entry.item.text) (leading : Blanks before)
    (spaced : entry.Spaced) :
    SkipsIn .object
      (before ++ (entry.quoted ++ (entry.between ++ ascii ':' :: entry.item.bytes))) := by
  obtain ⟨_, quoted, between, itemBefore, itemAfter⟩ := spaced
  intro stack c rest ends found
  have inside : c.rest = before ++ (entry.quoted ++
      (entry.between ++ colon :: (entry.item.before ++
        (entry.item.text ++ (entry.item.after ++ rest))))) := by
    rw [found, Item.bytes]
    simp only [List.append_assoc, List.cons_append]
    rfl
  obtain ⟨next, key, foundItem⟩ := skipKey_of leading quoted between inside
  obtain ⟨c', skipped, left⟩ :=
    skips (.object :: stack) itemBefore (itemAfter.ends_append ends) foundItem
  refine ⟨entry.item.after, c', itemAfter, ?_, left⟩
  rw [enter, key]
  exact skipped

theorem skips_open (bracket : Bracket) {text : List UInt8} (opening : text.head? = some bracket.opening)
    (inside : ∀ (stack : List Bracket) {c : Cursor} {rest : List UInt8}, c.rest = text.tail ++ rest →
      ∃ c', skip .opened (bracket :: stack) c = skip .following stack c' ∧ c'.rest = rest) :
    Skips text := by
  intro stack c before rest blanks ends found
  obtain ⟨tail, same⟩ := List.head?_eq_some_iff.mp opening
  have solid : bracket.opening ∉ word " \t\n\r" := by cases bracket <;> decide
  rw [same, List.cons_append] at found
  have next := skipBlanks_of blanks solid found
  have behind : (c.skipBlanks.drop 1).rest = text.tail ++ rest := by
    rw [Cursor.drop_rest, next, same]
    rfl
  obtain ⟨c', skipped, left⟩ := inside stack behind
  exact ⟨c', by rw [skip_open next, skipped], left⟩

theorem skips_scalar {text : List UInt8} (byte : UInt8) (begins : text.head? = some byte)
    (solid : byte ∉ word " \t\n\r") (noList : byte ≠ openList) (noObject : byte ≠ openObject)
    (scalar : ∀ {c : Cursor} {rest : List UInt8}, Ends rest → c.rest = text ++ rest →
      ∃ c', skipScalar byte c = .ok c' ∧ c'.rest = rest) : Skips text := by
  intro stack c before rest blanks ends found
  obtain ⟨tail, same⟩ := List.head?_eq_some_iff.mp begins
  rw [same, List.cons_append] at found
  have next := skipBlanks_of blanks solid found
  obtain ⟨c', skipped, left⟩ := scalar ends (by rw [next, same, List.cons_append])
  exact ⟨c', skip_scalar next noList noObject skipped, left⟩

theorem skips_empty (bracket : Bracket) {blanks : List UInt8} (areBlanks : Blanks blanks) :
    Skips (bracket.opening :: (blanks ++ [bracket.closing])) := by
  refine skips_open bracket rfl fun stack {c rest} found => ?_
  rw [List.tail_cons, List.append_assoc] at found
  have close := skipBlanks_of areBlanks bracket.closing_solid found
  exact ⟨c.skipBlanks.drop 1, skip_close (by simp) close, by simp [close]⟩

theorem skips_list {first : Item} {more : List Item} (spaced : ∀ item ∈ first :: more, item.Spaced)
    (written : Written first.value first.text) (each : ∀ item ∈ first :: more, Skips item.text) :
    Skips (ascii '[' :: (first.bytes ++ (behindCommas (more.map Item.bytes) ++ word "]"))) := by
  refine skips_open .list rfl fun stack {c rest} found => ?_
  obtain ⟨byte, tail, same, begins⟩ := written.begins
  obtain ⟨leading, trailing⟩ := spaced first List.mem_cons_self
  have notEnd : byte ≠ Bracket.list.closing := by
    rintro rfl
    exact begins.solid (by decide)
  have parts : ∀ part ∈ (first.text ++ first.after) :: more.map Item.bytes,
      SkipsIn .list part := by
    rw [List.forall_mem_cons, List.forall_mem_map]
    constructor
    · exact skipsIn_item (each first List.mem_cons_self) blanks_nil trailing
    · intro item member
      have inside := List.mem_cons_of_mem first member
      exact skipsIn_item (each item inside) (spaced item inside).1 (spaced item inside).2
  have inside : c.rest = first.before ++ ((first.text ++ first.after) ++
      (behindCommas (more.map Item.bytes) ++ Bracket.list.closing :: rest)) := by
    rw [found, List.tail_cons, Item.bytes]
    simp only [List.append_assoc]
    rfl
  exact skip_inside stack (by rw [same]; rfl) (begins.not_mem (by decide)) notEnd parts leading
    inside

theorem skips_object {first : Member} {more : List Member}
    (spaced : ∀ entry ∈ first :: more, entry.Spaced)
    (each : ∀ entry ∈ first :: more, Skips entry.item.text) :
    Skips (ascii '\x7b' ::
      (first.bytes ++ (behindCommas (more.map Member.bytes) ++ word "\x7d"))) := by
  refine skips_open .object rfl fun stack {c rest} found => ?_
  obtain ⟨leading, quoted, _⟩ := spaced first List.mem_cons_self
  obtain ⟨tail, same⟩ := quoted.begins
  have parts : ∀ part ∈ (first.quoted ++ (first.between ++ ascii ':' :: first.item.bytes)) ::
      more.map Member.bytes, SkipsIn .object part := by
    rw [List.forall_mem_cons, List.forall_mem_map]
    constructor
    · exact skipsIn_member (each first List.mem_cons_self) blanks_nil
        (spaced first List.mem_cons_self)
    · intro entry member
      have inside := List.mem_cons_of_mem first member
      exact skipsIn_member (each entry inside) (spaced entry inside).1 (spaced entry inside)
  have inside : c.rest = first.before ++
      ((first.quoted ++ (first.between ++ ascii ':' :: first.item.bytes)) ++
        (behindCommas (more.map Member.bytes) ++ Bracket.object.closing :: rest)) := by
    rw [found, List.tail_cons, Member.bytes]
    simp only [List.append_assoc, List.cons_append]
    rfl
  have begins : (first.quoted ++ (first.between ++ ascii ':' :: first.item.bytes)).head? =
      some quotationMark := by
    rw [same]
    rfl
  exact skip_inside stack begins (by decide) (by decide) parts leading inside

theorem Written.skips {value : Value} {text : List UInt8} (written : Written value text) :
    Skips text := by
  induction written with
  | null =>
      exact skips_scalar (ascii 'n') rfl (by decide) (by decide) (by decide) fun _ found =>
        skipScalar_word restOfNull (by decide) found
  | boolean value =>
      cases value with
      | true =>
          exact skips_scalar (ascii 't') rfl (by decide) (by decide) (by decide) fun _ found =>
            skipScalar_word restOfTrue (by decide) found
      | false =>
          exact skips_scalar (ascii 'f') rfl (by decide) (by decide) (by decide) fun _ found =>
            skipScalar_word restOfFalse (by decide) found
  | number numeral =>
      obtain ⟨byte, tail, same, begins⟩ := (Written.number numeral).begins
      have numeric : byte = ascii '-' ∨ (ascii '0' ≤ byte ∧ byte ≤ ascii '9') := begins
      refine skips_scalar byte (by rw [same]; rfl) (begins.not_mem (by decide)) ?_ ?_ fun ends found =>
        skipScalar_number ends found (by rw [found, same]; rfl)
      · rintro rfl
        revert numeric
        decide
      · rintro rfl
        revert numeric
        decide
  | string quoted =>
      obtain ⟨tail, same⟩ := quoted.begins
      exact skips_scalar quotationMark (by rw [same]; rfl) (by decide) (by decide) (by decide) fun _ found =>
        skipScalar_string quoted found
  | emptyList blanks => exact skips_empty .list blanks
  | list first more spaced written ih =>
      exact skips_list spaced (written first List.mem_cons_self) ih
  | emptyObject blanks => exact skips_empty .object blanks
  | object first more spaced written ih => exact skips_object spaced ih

theorem skipValue_of {value : Value} {text : List UInt8} (written : Written value text)
    (blanks : Blanks before) (ends : Ends rest) (found : c.rest = before ++ (text ++ rest)) :
    ∃ c', skipValue c = .ok c' ∧ c'.rest = rest := by
  obtain ⟨c', skipped, left⟩ := written.skips [] blanks ends found
  refine ⟨c', ?_, left⟩
  rw [skipValue, skipped, skip]

end Nesting

end HeapGraph.Json

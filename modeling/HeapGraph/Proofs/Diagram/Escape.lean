import HeapGraph.Diagram.Escape
import Mathlib.Data.List.Basic

/-!
Quoted strings of a DOT document can be read back: the quotation mark behind an escaped text is the
first one that no backslash hides, and the text can be told from its escaped form.
-/

namespace HeapGraph.Diagram

def written (c : Char) : List Char :=
  if c = '\\' then ['\\', '\\']
  else if c = '"' then ['\\', '"']
  else if c = '\n' then ['\\', 'n']
  else [c]

/-- What stands before the first quotation mark that no backslash hides, and what stands behind. -/
def scanQuoted : List Char → Option (List Char × List Char)
  | [] => none
  | '"' :: rest => some ([], rest)
  | '\\' :: c :: rest => (scanQuoted rest).map fun found => ('\\' :: c :: found.1, found.2)
  | c :: rest => (scanQuoted rest).map fun found => (c :: found.1, found.2)

def unescape : List Char → List Char
  | [] => []
  | '\\' :: 'n' :: rest => '\n' :: unescape rest
  | '\\' :: c :: rest => c :: unescape rest
  | c :: rest => c :: unescape rest

theorem written_cases (c : Char) :
    (c = '\\' ∧ written c = ['\\', '\\']) ∨ (c = '"' ∧ written c = ['\\', '"']) ∨
      (c = '\n' ∧ written c = ['\\', 'n']) ∨
      (c ≠ '\\' ∧ c ≠ '"' ∧ c ≠ '\n' ∧ written c = [c]) := by
  by_cases backslash : c = '\\'
  · subst c
    exact Or.inl ⟨rfl, rfl⟩
  by_cases mark : c = '"'
  · subst c
    exact Or.inr (Or.inl ⟨rfl, rfl⟩)
  by_cases newline : c = '\n'
  · subst c
    exact Or.inr (Or.inr (Or.inl ⟨rfl, rfl⟩))
  · exact Or.inr (Or.inr (Or.inr ⟨backslash, mark, newline, by
      simp [written, backslash, mark, newline]⟩))

theorem escapeChars_eq_flatMap (chars : List Char) : escapeChars chars = chars.flatMap written := by
  simp only [escapeChars, replace, List.flatMap_assoc]
  refine List.flatMap_congr fun c _ => ?_
  rcases written_cases c with ⟨rfl, form⟩ | ⟨rfl, form⟩ | ⟨rfl, form⟩ | ⟨backslash, mark, newline, form⟩
  · rfl
  · rfl
  · rfl
  · simp [form, backslash, mark, newline]

theorem scanQuoted_written (c : Char) (rest : List Char) :
    scanQuoted (written c ++ rest) =
      (scanQuoted rest).map fun found => (written c ++ found.1, found.2) := by
  rcases written_cases c with ⟨rfl, form⟩ | ⟨rfl, form⟩ | ⟨rfl, form⟩ | ⟨backslash, mark, _, form⟩
  · simp [form, scanQuoted]
  · simp [form, scanQuoted]
  · simp [form, scanQuoted]
  · rw [form, List.singleton_append, scanQuoted]
    · rfl
    · exact fun same => mark same
    · intro next tail same
      exact absurd same backslash

theorem unescape_written (c : Char) (rest : List Char) :
    unescape (written c ++ rest) = c :: unescape rest := by
  rcases written_cases c with ⟨rfl, form⟩ | ⟨rfl, form⟩ | ⟨rfl, form⟩ | ⟨backslash, _, _, form⟩
  · simp [form, unescape]
  · simp [form, unescape]
  · simp [form, unescape]
  · rw [form, List.singleton_append, unescape]
    · intro tail same
      exact absurd same backslash
    · intro next tail same
      exact absurd same backslash

theorem scanQuoted_escapeChars (chars rest : List Char) :
    scanQuoted (escapeChars chars ++ '"' :: rest) = some (escapeChars chars, rest) := by
  rw [escapeChars_eq_flatMap]
  induction chars with
  | nil => rfl
  | cons c chars ih => rw [List.flatMap_cons, List.append_assoc, scanQuoted_written, ih]; rfl

theorem unescape_escapeChars (chars : List Char) : unescape (escapeChars chars) = chars := by
  rw [escapeChars_eq_flatMap]
  induction chars with
  | nil => rfl
  | cons c chars ih => rw [List.flatMap_cons, unescape_written, ih]

theorem newline_not_mem_escapeChars (chars : List Char) : '\n' ∉ escapeChars chars := by
  rw [escapeChars_eq_flatMap]
  intro member
  obtain ⟨c, _, inside⟩ := List.mem_flatMap.mp member
  rcases written_cases c with ⟨rfl, form⟩ | ⟨rfl, form⟩ | ⟨rfl, form⟩ | ⟨_, _, newline, form⟩
  · simp [form] at inside
  · simp [form] at inside
  · simp [form] at inside
  · rw [form, List.mem_singleton] at inside
    exact newline inside.symm

/-- Two texts that are quoted alike, whatever follows them, are the same, and so is what follows. -/
theorem escapeChars_append_inj {left right rest more : List Char}
    (same : escapeChars left ++ '"' :: rest = escapeChars right ++ '"' :: more) :
    left = right ∧ rest = more := by
  have scanned := congrArg scanQuoted same
  rw [scanQuoted_escapeChars, scanQuoted_escapeChars] at scanned
  simp only [Option.some.injEq, Prod.mk.injEq] at scanned
  obtain ⟨escaped, follows⟩ := scanned
  have texts := congrArg unescape escaped
  rw [unescape_escapeChars, unescape_escapeChars] at texts
  exact ⟨texts, follows⟩

theorem toList_escape (text : String) : (escape text).toList = escapeChars text.toList :=
  String.toList_ofList

/-- A text is escaped character by character. It can be had back from its escaped form, and a scan for
the end of the quoted string passes over all of it, whatever stands behind the quotation mark. -/
theorem escape_reads_back (text : String) :
    (escape text).toList = text.toList.flatMap written ∧
      unescape (escape text).toList = text.toList ∧
      ∀ rest : List Char,
        scanQuoted ((escape text).toList ++ '"' :: rest) = some ((escape text).toList, rest) := by
  rw [toList_escape]
  refine ⟨escapeChars_eq_flatMap _, unescape_escapeChars _, ?_⟩
  intro rest
  exact scanQuoted_escapeChars _ rest

end HeapGraph.Diagram

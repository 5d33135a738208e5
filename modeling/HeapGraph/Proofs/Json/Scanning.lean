import HeapGraph.Json.Text
import Mathlib.Data.List.TakeWhile

/-!
Two ways to scan a string. A slice is searched for the next byte that needs a closer look, and all before
it is taken over in one go; a stream cannot be searched, and gives its bytes one by one. Both come to the
same bytes and to the same place behind them, or to a fault of the same cause.
-/

namespace HeapGraph.Json

def PlainByte (byte : UInt8) : Prop :=
  byte ≠ quotationMark ∧ byte ≠ backslash ∧ ¬byte < 0x20

theorem isPlain_iff {byte : UInt8} : isPlain byte = true ↔ PlainByte byte := by
  simp only [isPlain, PlainByte, Bool.and_eq_true, bne_iff_ne, Bool.not_eq_true',
    decide_eq_false_iff_not, and_assoc]

variable {c : Cursor} {rest : List UInt8} {byte : UInt8}

/-- The byte behind a run of plain bytes is not plain itself. -/
theorem low_of_run (found : (c.drop (c.rest.takeWhile isPlain).length).rest = byte :: rest)
    (mark : byte ≠ quotationMark) (slash : byte ≠ backslash) : byte < 0x20 := by
  by_contra low
  rw [Cursor.drop_rest, Cursor.drop_takeWhile_length] at found
  have stops := List.head?_dropWhile_not isPlain c.rest
  rw [found, List.head?_cons] at stops
  have plain : isPlain byte = true := isPlain_iff.mpr ⟨mark, slash, low⟩
  simp [plain] at stops

section Reading

variable {before : List UInt8}

theorem readBytes_eq (before : List UInt8) (c : Cursor) :
    readBytes before c =
      match c.rest with
      | [] => .error (c.faultHere .endInString)
      | byte :: _ =>
        if byte = quotationMark then .ok (before.reverse, c.drop 1)
        else if byte = backslash then
          match readEscape (c.drop 1) with
          | .error fault => .error fault
          | .ok (bytes, next) => readBytes (bytes.reverse ++ before) next
        else if byte < 0x20 then .error ((c.drop 1).faultHere .controlCharacter)
        else readBytes (byte :: before) (c.drop 1) := by
  rw [readBytes]
  split
  · rename_i ended
    rw [ended]
  · rename_i first tail found
    rw [found]
    cases readEscape (c.drop 1) <;> rfl

theorem readBytes_end (found : c.rest = quotationMark :: rest) :
    readBytes before c = .ok (before.reverse, c.drop 1) := by
  rw [readBytes_eq, found]
  exact if_pos rfl

theorem readBytes_escape {bytes : List UInt8} {c' : Cursor} (found : c.rest = backslash :: rest)
    (read : readEscape (c.drop 1) = .ok (bytes, c')) :
    readBytes before c = readBytes (bytes.reverse ++ before) c' := by
  rw [readBytes_eq, found]
  simp only [if_neg (by decide : backslash ≠ quotationMark), if_true, read]

theorem readBytes_run (before : List UInt8) {run : List UInt8} (plain : ∀ byte ∈ run, PlainByte byte)
    (found : c.rest = run ++ rest) :
    readBytes before c = readBytes (run.reverse ++ before) (c.drop run.length) := by
  induction run generalizing c before with
  | nil => rw [List.length_nil, Cursor.drop_zero]; rfl
  | cons byte run ih =>
      obtain ⟨mark, slash, low⟩ := plain byte List.mem_cons_self
      have behind : (c.drop 1).rest = run ++ rest := by simp [found]
      rw [readBytes_eq, found]
      simp only [List.cons_append, if_neg mark, if_neg slash, if_neg low]
      rw [ih (byte :: before) (fun other member => plain other (List.mem_cons_of_mem _ member)) behind,
        Cursor.drop_drop, List.length_cons, Nat.add_comm, List.reverse_cons, List.append_assoc]
      rfl

theorem readBytes_takeWhile (before : List UInt8) (c : Cursor) :
    readBytes before c = readBytes ((c.rest.takeWhile isPlain).reverse ++ before)
      (c.drop (c.rest.takeWhile isPlain).length) :=
  readBytes_run before (fun _ member => isPlain_iff.mp (List.mem_takeWhile_imp member))
    List.takeWhile_append_dropWhile.symm

theorem readRuns_eq_readBytes (before : List UInt8) (c : Cursor) :
    readRuns before c = readBytes before c := by
  fun_induction readRuns before c with
  | case1 before c run next ended =>
      have passed : readBytes before c = readBytes (run.reverse ++ before) next :=
        readBytes_takeWhile before c
      rw [passed, readBytes_eq, ended]
  | case2 before c run next rest found =>
      have passed : readBytes before c = readBytes (run.reverse ++ before) next :=
        readBytes_takeWhile before c
      rw [passed, readBytes_end found]
  | case3 before c run next rest fault failed found =>
      have passed : readBytes before c = readBytes (run.reverse ++ before) next :=
        readBytes_takeWhile before c
      rw [passed, readBytes_eq, found]
      simp only [if_neg (by decide : backslash ≠ quotationMark), if_true, failed]
  | case4 before c run next rest bytes after escape found mark ih =>
      have passed : readBytes before c = readBytes (run.reverse ++ before) next :=
        readBytes_takeWhile before c
      rw [passed, readBytes_escape found escape, ih]
  | case5 before c run next byte rest found mark slash =>
      have passed : readBytes before c = readBytes (run.reverse ++ before) next :=
        readBytes_takeWhile before c
      rw [passed, readBytes_eq, found]
      simp only [if_neg mark, if_neg slash, if_pos (low_of_run found mark slash)]

end Reading

@[simp] theorem Cursor.faultHere_cause (c : Cursor) (cause : Cause) :
    (c.faultHere cause).cause = cause := by
  cases c <;> rfl

@[simp] theorem Cursor.faultNext_cause (c : Cursor) (cause : Cause) :
    (c.faultNext cause).cause = cause := by
  cases c <;> rfl

section Skipping

theorem skipBytes_eq (c : Cursor) :
    skipBytes c =
      match c.rest with
      | [] => .error (c.faultHere .endInString)
      | byte :: _ =>
        if byte = quotationMark then .ok (c.drop 1)
        else if byte = backslash then
          match skipEscape (c.drop 1) with
          | .error fault => .error fault
          | .ok next => skipBytes next
        else if byte < 0x20 then .error ((c.drop 1).faultHere .controlCharacter)
        else skipBytes (c.drop 1) := by
  rw [skipBytes]
  split
  · rename_i ended
    rw [ended]
  · rename_i first tail found
    rw [found]
    cases skipEscape (c.drop 1) <;> rfl

theorem skipBytes_end (found : c.rest = quotationMark :: rest) : skipBytes c = .ok (c.drop 1) := by
  rw [skipBytes_eq, found]
  exact if_pos rfl

theorem skipBytes_escape {c' : Cursor} (found : c.rest = backslash :: rest)
    (skipped : skipEscape (c.drop 1) = .ok c') : skipBytes c = skipBytes c' := by
  rw [skipBytes_eq, found]
  simp only [if_neg (by decide : backslash ≠ quotationMark), if_true, skipped]

theorem skipBytes_run {run : List UInt8} (plain : ∀ byte ∈ run, PlainByte byte)
    (found : c.rest = run ++ rest) : skipBytes c = skipBytes (c.drop run.length) := by
  induction run generalizing c with
  | nil => rw [List.length_nil, Cursor.drop_zero]
  | cons byte run ih =>
      obtain ⟨mark, slash, low⟩ := plain byte List.mem_cons_self
      have behind : (c.drop 1).rest = run ++ rest := by simp [found]
      rw [skipBytes_eq, found]
      simp only [List.cons_append, if_neg mark, if_neg slash, if_neg low]
      rw [ih (fun other member => plain other (List.mem_cons_of_mem _ member)) behind,
        Cursor.drop_drop, List.length_cons, Nat.add_comm]

theorem skipBytes_takeWhile (c : Cursor) :
    skipBytes c = skipBytes (c.drop (c.rest.takeWhile isPlain).length) :=
  skipBytes_run (fun _ member => isPlain_iff.mp (List.mem_takeWhile_imp member))
    List.takeWhile_append_dropWhile.symm

theorem skipRuns_eq_skipBytes (c : Cursor) :
    (skipRuns c).mapError Fault.cause = (skipBytes c).mapError Fault.cause := by
  fun_induction skipRuns c with
  | case1 c next ended =>
      have passed : skipBytes c = skipBytes next := skipBytes_takeWhile c
      rw [passed, skipBytes_eq, ended]
  | case2 c next rest found =>
      have passed : skipBytes c = skipBytes next := skipBytes_takeWhile c
      rw [passed, skipBytes_end found]
  | case3 c next rest fault failed found =>
      have passed : skipBytes c = skipBytes next := skipBytes_takeWhile c
      rw [passed, skipBytes_eq, found]
      simp only [if_neg (by decide : backslash ≠ quotationMark), if_true, failed]
  | case4 c next rest after escape found mark ih =>
      have passed : skipBytes c = skipBytes next := skipBytes_takeWhile c
      rw [passed, skipBytes_escape found escape, ih]
  | case5 c next byte rest found mark slash =>
      have passed : skipBytes c = skipBytes next := skipBytes_takeWhile c
      rw [passed, skipBytes_eq, found]
      simp only [if_neg mark, if_neg slash, if_pos (low_of_run found mark slash), Except.mapError,
        Cursor.faultHere_cause]

end Skipping

section Readers

/-- Readings that differ in nothing but the places of their faults. -/
theorem alike_of_causes {ρ : Type} {result other : Except Fault ρ}
    (same : other.mapError Fault.cause = result.mapError Fault.cause) :
    (∀ found, result = .ok found → other = .ok found) ∧
      ∀ fault, result = .error fault → ∃ fault', other = .error fault' ∧ fault'.cause = fault.cause := by
  constructor
  · rintro found rfl
    cases other with
    | error fault => cases same
    | ok found => cases same; rfl
  · rintro fault rfl
    cases other with
    | error fault' => exact ⟨fault', rfl, Except.error.inj same⟩
    | ok found => cases same

theorem readStringBytes_eq (c : Cursor) : readStringBytes c = readBytes [] c := by
  cases c with
  | slice s => exact readRuns_eq_readBytes [] (.slice s)
  | stream s => rfl

theorem skipString_eq (c : Cursor) :
    (skipString c).mapError Fault.cause = (skipBytes c).mapError Fault.cause := by
  cases c with
  | slice s => exact skipRuns_eq_skipBytes (.slice s)
  | stream s => rfl

end Readers

end HeapGraph.Json

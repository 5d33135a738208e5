import HeapGraph.Json.Fault

/-!
A place in a JSON document that is being read, and the places that faults found there are reported
at.

There are two kinds of documents. The bytes of a slice lie there, and reading it is a matter of how far
one has come. The bytes of a stream come one after the other, and one that has been fetched in order to
be looked at has to be kept until it is taken.
-/

namespace HeapGraph.Json

/-- How the bytes of a document arrive: all of them at once, or one after the other. -/
inductive Feed where
  | whole
  | streamed
  deriving Repr, DecidableEq

structure Slice where
  /-- The bytes from the index on. -/
  rest : List UInt8
  index : Nat

namespace Slice

def drop (s : Slice) (count : Nat) : Slice :=
  ⟨s.rest.drop count, s.index + count⟩

def faultHere (s : Slice) (cause : Cause) : Fault :=
  ⟨cause, s.index⟩

def faultNext (s : Slice) (cause : Cause) : Fault :=
  ⟨cause, s.index + (s.rest.take 1).length⟩

end Slice

structure Stream where
  /-- The byte that has been fetched last, unless it has been taken. -/
  waiting : Option UInt8
  coming : List UInt8
  /-- How many bytes have been fetched. -/
  fetched : Nat

namespace Stream

def rest (s : Stream) : List UInt8 :=
  s.waiting.toList ++ s.coming

def peek (s : Stream) : Stream :=
  match s.waiting, s.coming with
  | none, byte :: coming => ⟨some byte, coming, s.fetched + 1⟩
  | _, _ => s

def next? (s : Stream) : Option (UInt8 × Stream) :=
  match s.peek.waiting with
  | none => none
  | some byte => some (byte, { s.peek with waiting := none })

def drop (s : Stream) : (count : Nat) → Stream
  | 0 => s
  | count + 1 =>
    match s.next? with
    | none => s
    | some (_, s) => s.drop count

def fault (s : Stream) (cause : Cause) : Fault :=
  ⟨cause, s.fetched⟩

theorem next?_eq (s : Stream) : s.next?.map Prod.fst = s.rest.head? ∧
    ∀ byte after, s.next? = some (byte, after) → s.rest = byte :: after.rest := by
  obtain ⟨waiting, coming, fetched⟩ := s
  cases waiting <;> cases coming <;> simp [next?, peek, rest]

end Stream

inductive Cursor where
  | slice (s : Slice)
  | stream (s : Stream)

namespace Cursor

def start (feed : Feed) (document : List UInt8) : Cursor :=
  match feed with
  | .whole => .slice ⟨document, 0⟩
  | .streamed => .stream ⟨none, document, 0⟩

def rest : Cursor → List UInt8
  | slice s => s.rest
  | stream s => s.rest

def peek : Cursor → Cursor
  | slice s => .slice s
  | stream s => .stream s.peek

def drop (c : Cursor) (count : Nat) : Cursor :=
  match c with
  | slice s => .slice (s.drop count)
  | stream s => .stream (s.drop count)

def isBlank (byte : UInt8) : Bool :=
  byte = 0x20 || byte = 0x0A || byte = 0x09 || byte = 0x0D

def skipBlanks (c : Cursor) : Cursor :=
  (c.drop (c.rest.takeWhile isBlank).length).peek

def faultHere (c : Cursor) (cause : Cause) : Fault :=
  match c with
  | slice s => s.faultHere cause
  | stream s => s.fault cause

def faultNext (c : Cursor) (cause : Cause) : Fault :=
  match c with
  | slice s => s.faultNext cause
  | stream s => s.fault cause

def faultBefore (c : Cursor) (count : Nat) (cause : Cause) : Fault :=
  ⟨cause, (c.faultHere cause).offset - count⟩

end Cursor

theorem Stream.peek_rest (s : Stream) : s.peek.rest = s.rest := by
  obtain ⟨waiting, coming, fetched⟩ := s
  cases waiting <;> cases coming <;> rfl

theorem Stream.drop_rest (s : Stream) (count : Nat) : (s.drop count).rest = s.rest.drop count := by
  induction count generalizing s with
  | zero => rfl
  | succ count ih =>
    obtain ⟨first, behind⟩ := s.next?_eq
    rw [Stream.drop]
    cases taken : s.next? with
    | none =>
      rw [taken] at first
      simp [List.head?_eq_none_iff.mp first.symm]
    | some found =>
      rw [behind _ _ taken, List.drop_succ_cons]
      exact ih found.2

theorem Stream.drop_of_ended {s : Stream} (ended : s.next? = none) (count : Nat) :
    s.drop count = s := by
  cases count with
  | zero => rfl
  | succ count => rw [drop, ended]

theorem Stream.drop_drop (s : Stream) (count more : Nat) :
    (s.drop count).drop more = s.drop (count + more) := by
  induction count generalizing s with
  | zero => rw [Nat.zero_add, drop]
  | succ count ih =>
    rw [Nat.succ_add, drop, drop]
    cases taken : s.next? with
    | none => exact drop_of_ended taken more
    | some found => exact ih found.2

namespace Cursor

@[simp] theorem start_rest (feed : Feed) (document : List UInt8) :
    (start feed document).rest = document := by
  cases feed <;> rfl

@[simp] theorem peek_rest (c : Cursor) : c.peek.rest = c.rest := by
  cases c with
  | slice s => rfl
  | stream s => exact s.peek_rest

@[simp] theorem drop_rest (c : Cursor) (count : Nat) :
    (c.drop count).rest = c.rest.drop count := by
  cases c with
  | slice s => rfl
  | stream s => exact s.drop_rest count

theorem drop_zero (c : Cursor) : c.drop 0 = c := by
  cases c <;> rfl

theorem drop_drop (c : Cursor) (count more : Nat) :
    (c.drop count).drop more = c.drop (count + more) := by
  cases c with
  | slice s => simp [drop, Slice.drop, Nat.add_assoc]
  | stream s => exact congrArg stream (s.drop_drop count more)

theorem drop_takeWhile_length (p : UInt8 → Bool) (bytes : List UInt8) :
    bytes.drop (bytes.takeWhile p).length = bytes.dropWhile p := by
  induction bytes with
  | nil => rfl
  | cons byte rest ih => by_cases holds : p byte <;> simp [holds, ih]

theorem skipBlanks_rest (c : Cursor) : c.skipBlanks.rest = c.rest.dropWhile isBlank := by
  simp [skipBlanks, drop_takeWhile_length]

theorem skipBlanks_length_le (c : Cursor) : c.skipBlanks.rest.length ≤ c.rest.length := by
  rw [skipBlanks_rest]
  exact (List.dropWhile_suffix _).length_le

end Cursor

end HeapGraph.Json

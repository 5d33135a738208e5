import HeapGraph.Proofs.Dump.RoundTrip
import HeapGraph.Proofs.Json.SteadyRecords

/-!
Dumps of documents that arrive in other ways. A document is not a dump before its last byte that is no
blank has come, and it is the same dump whether its bytes come all at once or one after the other.
-/

namespace HeapGraph

open Json

section Forms

theorem Node.form_firm : Node.form.reader.Firm := by
  apply RecordForm.reader_firm
  have tag := Reader.map_steady string_steady Color.ofTag
  simp [Node.form, Field.ofReader_steady, string_steady, boolean_steady, octet_steady, tag]

theorem Reference.form_firm : Reference.form.reader.Firm := by
  apply RecordForm.reader_firm
  simp [Reference.form, Field.ofReader_steady, string_steady, stringOrNull_steady]

theorem Dump.form_firm : Dump.form.reader.Firm := by
  apply RecordForm.reader_firm
  have nodes := (list_firm Node.form_firm.steady).steady
  have references := (list_firm Reference.form_firm.steady).steady
  simp [Dump.form, Field.ofReader_steady, nodes, references]

end Forms

section Dumps

/-- More bytes behind a document leave it a document only if they are blanks, and then of the same
dump; so no part of a document is taken for a smaller one. Blanks may also stand before it. -/
theorem Dump.decode_append {feed : Feed} {document : List UInt8} {dump : Dump}
    (accepted : Dump.decode feed document = .ok dump) (added : List UInt8) :
    (∀ other, Dump.decode feed (document ++ added) = .ok other ↔ Blanks added ∧ other = dump) ∧
      (Blanks added → Dump.decode feed (added ++ document) = .ok dump) := by
  have read := decode_eq_ok_iff.mp accepted
  constructor
  · intro other
    rw [decode_eq_ok_iff]
    exact Dump.form_firm.readDocument_append read added other
  · intro blanks
    rw [decode_eq_ok_iff]
    exact Dump.form_firm.readDocument_blanks read blanks

def soleDump : Dump :=
  ⟨[⟨"1", "table", "_G", true, false, .black, 0⟩], [⟨"1", "1", some "_G"⟩]⟩

theorem Dump.decode_append_sole :
    Dump.decode .whole (Text.utf8 soleDump.write) = .ok soleDump ∧
      (∀ other, Dump.decode .whole (Text.utf8 soleDump.write ++ word "]") ≠ .ok other) ∧
      Dump.decode .whole (Text.utf8 soleDump.write ++ word "\r\n") = .ok soleDump ∧
      Dump.decode .whole (word "\t " ++ Text.utf8 soleDump.write) = .ok soleDump := by
  have accepted : Dump.decode .whole (Text.utf8 soleDump.write) = .ok soleDump :=
    decode_of_recognized rfl
  have leading : Blanks (word "\t ") :=
    (blanks_singleton (by decide)).append (blanks_singleton (by decide))
  have trailing : Blanks (word "\r\n") :=
    (blanks_singleton (by decide)).append (blanks_singleton (by decide))
  have bracket : ¬Blanks (word "]") := by
    intro blanks
    exact absurd (blanks (ascii ']') List.mem_cons_self) (by decide)
  refine ⟨accepted, ?_, ?_, (Dump.decode_append accepted (word "\t ")).2 leading⟩
  · intro other again
    exact bracket (((Dump.decode_append accepted (word "]")).1 other).mp again).1
  · exact ((Dump.decode_append accepted (word "\r\n")).1 soleDump).mpr ⟨trailing, rfl⟩

theorem Dump.decode_feed (feed feed' : Feed) (document : List UInt8) :
    match Dump.decode feed document with
    | .ok dump => Dump.decode feed' document = .ok dump
    | .error error =>
      ∃ mistake mistake', error = .invalid mistake ∧
        Dump.decode feed' document = .error (.invalid mistake') ∧
        mistake'.cause = mistake.cause := by
  have again := Dump.form_firm.readDocument_feed feed feed' document
  unfold Dump.decode Dump.read
  cases ran : Dump.form.reader.readDocument feed document with
  | error fault =>
      rw [ran] at again
      obtain ⟨fault', failed, cause⟩ := again
      rw [failed]
      exact ⟨_, _, rfl, rfl, cause⟩
  | ok dump =>
      rw [ran] at again
      rw [again]
      rfl

/-- A document that is streamed is decoded into the same dump as one that comes as a whole, from a file
or as a text, or fails for the same cause. -/
theorem Dump.decode_streamed (document : List UInt8) :
    (∀ dump, Dump.decode .streamed document = .ok dump ↔
        Dump.decode .whole document = .ok dump) ∧
      (∀ error, Dump.decode .streamed document = .error error →
        ∃ mistake mistake', error = .invalid mistake ∧
          Dump.decode .whole document = .error (.invalid mistake') ∧
          mistake'.cause = mistake.cause) ∧
      (∀ (host : Host) (path : String), host.read path = .ok document →
        ∀ dump, Dump.load host path = .ok dump ↔ Dump.decode .streamed document = .ok dump) ∧
      (∀ text, Text.ofUtf8? document = some text →
        ∀ dump, Dump.parse text = .ok dump ↔ Dump.decode .streamed document = .ok dump) := by
  have same (feed feed' : Feed) {dump : Dump} (decoded : Dump.decode feed document = .ok dump) :
      Dump.decode feed' document = .ok dump := by
    have again := Dump.decode_feed feed feed' document
    rwa [decoded] at again
  refine ⟨fun dump => ⟨same _ _, same _ _⟩, ?_, ?_, ?_⟩
  · intro error failed
    have again := Dump.decode_feed .streamed .whole document
    rwa [failed] at again
  · intro host path found dump
    have whole : Dump.load host path = Dump.decode .whole document := by
      unfold Dump.load Host.document
      rw [found]
      rfl
    rw [whole]
    exact ⟨same _ _, same _ _⟩
  · intro text found dump
    rw [Dump.parse, Text.utf8_of_ofUtf8? found]
    exact ⟨same _ _, same _ _⟩

end Dumps

end HeapGraph

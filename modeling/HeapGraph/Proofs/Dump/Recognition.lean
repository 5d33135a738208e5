import HeapGraph.Proofs.Dump.RoundTrip

/-!
What is true of all values that a reader can come to, whatever bytes it reads. Of the objects of a dump
that is decoded none keeps under its tag a color that has a name of its own.
-/

namespace HeapGraph

namespace Json

section Outcomes

variable {σ α β : Type} {holds : α → Prop}

def Reader.Yields (reader : Reader α) (holds : α → Prop) : Prop :=
  ∀ c c' value, reader.run c = .ok (value, c') → holds value

theorem Reader.Yields.map {reader : Reader α} (yields : reader.Yields holds) {f : α → β}
    {meant : β → Prop} (keeps : ∀ value, holds value → meant (f value)) :
    (reader.map f).Yields meant := by
  intro c c' value read
  unfold Reader.map at read
  dsimp only at read
  split at read
  · cases read
  · rename_i found after ran
    cases read
    exact keeps found (yields _ _ _ ran)

theorem yields_ofFirst {read : UInt8 → Cursor → Except Fault (α × Cursor)}
    {advances : ∀ {byte : UInt8} {rest : List UInt8} {c c' : Cursor} {value : α},
      c.rest = byte :: rest → read byte c = .ok (value, c') → c'.rest.length < c.rest.length}
    (yields : ∀ byte c c' value, read byte c = .ok (value, c') → holds value) :
    (Reader.ofFirst read @advances).Yields holds := by
  intro c c' value ran
  unfold Reader.ofFirst at ran
  dsimp only at ran
  split at ran
  · cases ran
  · exact yields _ _ _ _ ran

theorem readElements_yields {item : Reader α} (yields : item.Yields holds) {first : Bool}
    {before values : List α} {c c' : Cursor} (sofar : ∀ value ∈ before, holds value)
    (read : readElements item first before c = .ok (values, c')) :
    ∀ value ∈ values, holds value := by
  fun_induction readElements item first before c
  case case1 | case3 => cases read
  case case2 =>
    cases read
    simpa using sofar
  case case4 ran ih =>
    exact ih (List.forall_mem_cons.mpr ⟨yields _ _ _ ran, sofar⟩) read

theorem list_yields {item : Reader α} (yields : item.Yields holds) :
    (list item).Yields fun values => ∀ value ∈ values, holds value := by
  apply yields_ofFirst
  intro byte c c' values read
  split at read
  · split at read
    · cases read
    · rename_i elements
      cases (settle_eq_ok read).1
      exact readElements_yields yields (by simp) elements
  · cases read

/-- What every step of the gathering keeps true of the draft holds when it is finished. -/
structure RecordForm.Keeps (form : RecordForm σ α) (sofar : σ → Prop) (holds : α → Prop) : Prop where
  blank : sofar form.blank
  fill : ∀ field ∈ form.fields, ∀ draft, sofar draft → (field.fill draft).Yields sofar
  finish : ∀ draft value, sofar draft → form.finish draft = .ok value → holds value

namespace RecordForm.Keeps

variable {form : RecordForm σ α} {sofar : σ → Prop}

theorem readMembers (keeps : form.Keeps sofar holds) {first : Bool} {draft : σ} {value : α}
    {c c' : Cursor} (before : sofar draft)
    (read : form.readMembers first draft c = .ok (.ok value, c')) : holds value := by
  fun_induction RecordForm.readMembers form first draft c
  case case1 | case3 | case5 | case6 => cases read
  case case2 =>
    simp only [Except.ok.injEq, Prod.mk.injEq] at read
    exact keeps.finish _ value before read.1
  case case4 ih => exact ih before read
  case case7 found _ _ _ ran ih =>
    unfold readMember at ran
    split at ran
    · cases ran
    · exact ih (keeps.fill _ (List.mem_of_find?_eq_some found) _ before _ _ _ ran) read

theorem readPositions (keeps : form.Keeps sofar holds) {first : Bool} {index : Nat} {draft : σ}
    {fields : List (Field σ)} {value : α} {c c' : Cursor} (among : fields ⊆ form.fields)
    (before : sofar draft)
    (read : form.readPositions first index draft c fields = .ok (.ok value, c')) : holds value := by
  induction fields generalizing first index draft c with
  | nil =>
      simp only [RecordForm.readPositions, Except.ok.injEq, Prod.mk.injEq] at read
      exact keeps.finish _ value before read.1
  | cons field fields ih =>
      obtain ⟨listed, rest⟩ := List.cons_subset.mp among
      rw [RecordForm.readPositions] at read
      split at read
      · cases read
      · split at read
        · cases read
        · exact ih rest before read
      · split at read
        · cases read
        · rename_i ran
          exact ih rest (keeps.fill field listed _ before _ _ _ ran) read

theorem reader_yields (keeps : form.Keeps sofar holds) : form.reader.Yields holds := by
  apply yields_ofFirst
  intro byte c c' value read
  split at read
  · split at read
    · cases read
    · rename_i inside
      rw [(settle_eq_ok read).1] at inside
      exact keeps.readPositions (List.Subset.refl _) keeps.blank inside
  · split at read
    · split at read
      · cases read
      · rename_i inside
        rw [(settle_eq_ok read).1] at inside
        exact keeps.readMembers keeps.blank inside
    · cases read

end RecordForm.Keeps

theorem Field.fill_yields {reader : Reader β} {meant : β → Prop} (yields : reader.Yields meant)
    {sofar : σ → Prop} {set : σ → β → σ} {draft : σ}
    (keeps : ∀ value, meant value → sofar (set draft value)) (name : String) (required : Bool)
    (get : σ → Option β) : ((Field.ofReader name reader required get set).fill draft).Yields sofar :=
  yields.map keeps

theorem Reader.yields_true (reader : Reader α) : reader.Yields fun _ => True :=
  fun _ _ _ _ => trivial

theorem Reader.Yields.readDocument {reader : Reader α} (yields : reader.Yields holds) {feed : Feed}
    {document : List UInt8} {value : α} (read : reader.readDocument feed document = .ok value) :
    holds value := by
  obtain ⟨c, ran, _⟩ := readDocument_eq_ok_iff.mp read
  exact yields _ _ _ ran

end Outcomes

end Json

open Json

theorem Color.recognized_ofTag (tag : String) :
    (Color.ofTag tag).recognized = Color.ofTag tag := by
  rw [← Color.ofTag_tag, Color.tag_ofTag]

theorem Node.form_keeps : Node.form.Keeps
    (fun draft => ∀ color ∈ draft.color, color.recognized = color)
    fun node => node.color.recognized = node.color where
  blank := by simp [Node.form]
  fill := by
    intro field listed draft sofar
    simp only [Node.form, List.mem_cons, List.not_mem_nil, or_false] at listed
    rcases listed with rfl | rfl | rfl | rfl | rfl | rfl | rfl
    case inr.inr.inr.inr.inr.inl =>
      have tags : (string.map Color.ofTag).Yields fun color => color.recognized = color :=
        string.yields_true.map fun tag _ => Color.recognized_ofTag tag
      exact Field.fill_yields tags (fun color read => by simpa using read) _ _ _
    all_goals exact Field.fill_yields (Reader.yields_true _) (fun _ _ => sofar) _ _ _
  finish := by
    intro draft node sofar finished
    rw [NodeDraft.finish_eq_ok.mp finished] at sofar
    exact sofar node.color rfl

theorem Dump.form_keeps : Dump.form.Keeps
    (fun draft => ∀ nodes ∈ draft.nodes, ∀ node ∈ nodes, node.color.recognized = node.color)
    fun dump => ∀ node ∈ dump.nodes, node.color.recognized = node.color where
  blank := by simp [Dump.form]
  fill := by
    intro field listed draft sofar
    simp only [Dump.form, List.mem_cons, List.not_mem_nil, or_false] at listed
    rcases listed with rfl | rfl
    · exact Field.fill_yields (list_yields Node.form_keeps.reader_yields)
        (fun nodes read => by simpa using read) _ _ _
    · exact Field.fill_yields (Reader.yields_true _) (fun _ _ => sofar) _ _ _
  finish := by
    intro draft dump sofar finished
    rw [DumpDraft.finish_eq_ok.mp finished] at sofar
    exact sofar dump.nodes rfl

/-- Whatever is decoded, no object of it keeps under its tag one of the three colors. -/
theorem Dump.color_recognized {feed : Feed} {document : List UInt8} {dump : Dump}
    (decoded : Dump.decode feed document = .ok dump) :
    ∀ node ∈ dump.nodes, node.color.recognized = node.color :=
  Dump.form_keeps.reader_yields.readDocument (decode_eq_ok_iff.mp decoded)

end HeapGraph

import HeapGraph.Proofs.Path
import HeapGraph.Proofs.Showing.Effects

/-!
Where the files of a diagram are put. The drawing lies right beside its source, in the directory that
is set and under the same stem, and it is the source itself for one format alone.
-/

namespace HeapGraph

namespace Text

theorem hexByte_plain (byte : UInt8) : '/' ∉ hexByte byte := by
  have digits : ∀ digit < 16, '/' ≠ Nat.digitChar digit := by decide
  have small : byte.toNat < 256 := byte.toNat_lt
  simp only [hexByte, List.mem_cons, List.not_mem_nil, or_false, not_or]
  exact ⟨digits _ (by omega), digits _ (by omega)⟩

theorem any_trimChars (chars : List Char) :
    (trimChars chars).any (!blank.contains ·) = chars.any (!blank.contains ·) := by
  rw [trimChars, List.any_reverse, List.any_dropWhile, List.all_reverse, List.not_all_eq_any_not,
    List.any_dropWhile, List.not_all_eq_any_not]

theorem trim_ne_empty {text : String} (given : isBlank text = false) : trim text ≠ "" := by
  intro empty
  have none := String.toList_eq_nil_iff.mpr empty
  have some := any_trimChars text.toList
  rw [trim, String.toList_ofList] at none
  rw [none, ← List.not_all_eq_any_not, ← List.not_all_eq_any_not] at some
  change _ = !isBlank text at some
  rw [given] at some
  cases some

theorem lowercase_ne_empty {text : String} (given : text ≠ "") : lowercase text ≠ "" := by
  intro empty
  have none := String.toList_eq_nil_iff.mpr empty
  rw [lowercase, String.toList_ofList] at none
  cases shape : text.toList with
  | nil => exact given (String.toList_eq_nil_iff.mp shape)
  | cons first rest =>
      rw [shape, lowerChars, List.append_eq_nil_iff, lowerAt] at none
      split at none
      · split at none <;> cases none.1
      · split at none <;> cases none.1

end Text

theorem artifactStem_plain (document : List UInt8) : '/' ∉ (artifactStem document).toList := by
  unfold artifactStem
  simp only [String.toList_append, String.toList_ofList, List.mem_append, List.mem_flatMap, not_or]
  exact ⟨⟨by decide, by decide⟩, fun ⟨byte, _, inside⟩ => Text.hexByte_plain byte inside⟩

theorem dash_mem_artifactStem (document : List UInt8) : '-' ∈ (artifactStem document).toList := by
  unfold artifactStem
  simp

namespace Settings

theorem format_ne_empty (surroundings : Surroundings) (lookup : String → Option String) :
    (ofLookup surroundings lookup).format ≠ "" := by
  unfold ofLookup
  dsimp only
  cases given : (lookup "HEAPGRAPH_FORMAT").filter (!Text.isBlank ·) with
  | none => exact (by decide : "pdf" ≠ "")
  | some text =>
      have solid := (Option.filter_eq_some_iff.mp given).2
      exact Text.lowercase_ne_empty (Text.trim_ne_empty (by simpa using solid))

end Settings

namespace FileTree

theorem newPlace_child {tree : FileTree} {directory : List String} {route : Route} {name : String}
    {taken : OsError} {place : List String}
    (found : tree.newPlace directory (route.child name) taken = .ok place) :
    ∃ above, tree.walk (origin directory route) route.names = .ok above ∧
      place = above ++ [name] := by
  have last : (route.child name).names.getLast? = some name := by simp [Route.child]
  have front : (route.child name).names.dropLast = route.names := by simp [Route.child]
  unfold newPlace at found
  rw [last, front] at found
  dsimp only at found
  split at found
  · cases found
  rename_i above walks
  split at found
  · cases found
  split at found
  · cases found
  split at found
  · cases found
  cases found
  exact ⟨above, walks, rfl⟩

end FileTree

namespace Settings

def filePath (settings : Settings) (document : List UInt8) (extension : String) : String :=
  Path.join settings.outputDir (artifactStem document ++ "." ++ extension)

theorem sourcePath_eq_filePath (settings : Settings) (document : List UInt8) :
    settings.sourcePath (artifactStem document) = settings.filePath document "gv" := by
  rw [sourcePath, filePath, String.append_assoc]
  rfl

theorem drawingPath_eq_filePath {settings : Settings} (given : settings.format ≠ "")
    (plain : '/' ∉ settings.format.toList) (document : List UInt8) :
    settings.drawingPath (settings.sourcePath (artifactStem document)) =
      .ok (settings.filePath document settings.format) := by
  have dash := dash_mem_artifactStem document
  have whole : artifactStem document ≠ "" := fun empty => by simp [empty] at dash
  have proper : artifactStem document ≠ "." := fun dot => by simp [dot] at dash
  rw [drawingPath, sourcePath_eq_filePath]
  exact Path.withExtension_join _ (artifactStem_plain document) whole proper (by decide)
    (by decide) plain given

section Files

variable {settings : Settings} {document : List UInt8} {extension other : String}

theorem fileName_plain (plain : '/' ∉ extension.toList) :
    '/' ∉ (artifactStem document ++ "." ++ extension).toList := by
  simp [artifactStem_plain document, plain]

theorem fileName_inj :
    artifactStem document ++ "." ++ extension = artifactStem document ++ "." ++ other ↔
      extension = other := by
  rw [String.append_right_inj]

theorem filePath_inj (plain : '/' ∉ extension.toList) (otherPlain : '/' ∉ other.toList) :
    settings.filePath document extension = settings.filePath document other ↔
      extension = other := by
  constructor
  · intro same
    have chars := congrArg String.toList same
    rw [filePath, filePath, Path.toList_join _ (Path.isAbsolute_of_plain (fileName_plain plain)),
      Path.toList_join _ (Path.isAbsolute_of_plain (fileName_plain otherPlain))] at chars
    exact fileName_inj.mp (String.toList_injective (List.append_cancel_left chars))
  · rintro rfl
    rfl

theorem ofPath_filePath (plain : '/' ∉ extension.toList) :
    Route.ofPath (settings.filePath document extension) =
      (Route.ofPath settings.outputDir).child (artifactStem document ++ "." ++ extension) :=
  Path.ofPath_join _ (fileName_plain plain) (by simp)

theorem writeSource_ok {stem diagram written : String} {host : Host}
    (succeeds : (settings.writeSource stem diagram host).1 = .ok written) :
    written = settings.sourcePath stem := by
  obtain ⟨files, ⟨error, failed, _⟩ | ⟨answered, _⟩⟩ := settings.writeSource_cases stem diagram host
  · rw [failed] at succeeds
    cases succeeds
  · rw [answered] at succeeds
    exact (Except.ok.inj succeeds).symm

theorem renderFile_launches {source drawing : String}
    (placed : settings.drawingPath source = .ok drawing) (host : Host) :
    (settings.renderFile source host).2.launches = host.launches ∨
      (settings.renderFile source host).2.launches =
        host.launches ++ [settings.drawingLaunch source drawing] := by
  rcases settings.renderFile_cases source host with
    ⟨halt, failed⟩ | ⟨found, same, ⟨halt, failed⟩ | ⟨_, drawn⟩⟩
  · exact .inl (by rw [failed])
  all_goals
    obtain rfl : found = drawing := Except.ok.inj (same.symm.trans placed)
  · exact .inr (by rw [failed])
  · exact .inr (by rw [drawn])

theorem renderFile_ok {source drawing drawn : String} {host : Host}
    (placed : settings.drawingPath source = .ok drawing)
    (succeeds : (settings.renderFile source host).1 = .ok drawn) :
    drawn = drawing ∧ (settings.renderFile source host).2.launches =
      host.launches ++ [settings.drawingLaunch source drawing] := by
  rcases settings.renderFile_cases source host with
    ⟨halt, failed⟩ | ⟨found, same, ⟨halt, failed⟩ | ⟨_, answered⟩⟩
  · rw [failed] at succeeds
    cases succeeds
  · rw [failed] at succeeds
    cases succeeds
  · obtain rfl : found = drawing := Except.ok.inj (same.symm.trans placed)
    rw [answered] at succeeds ⊢
    exact ⟨(Except.ok.inj succeeds).symm, rfl⟩

end Files

/-- Whatever is set, as long as the format has no slash in it, the drawing is put right beside its
source, and it takes the place of the source just when the format is `gv`. -/
theorem drawing_beside_source {surroundings : Surroundings} {lookup : String → Option String}
    {settings : Settings} (chosen : settings = .ofLookup surroundings lookup)
    (plain : '/' ∉ settings.format.toList) (document : List UInt8) :
    ∃ source drawing : String,
      source = Path.join settings.outputDir (artifactStem document ++ ".gv") ∧
      drawing = Path.join settings.outputDir (artifactStem document ++ "." ++ settings.format) ∧
      settings.drawingPath source = .ok drawing ∧
      settings.drawingArguments source drawing =
        ["-T" ++ settings.format, "-o", drawing, source] ∧
      (∀ diagram host written,
        (settings.writeSource (artifactStem document) diagram host).1 = .ok written →
          written = source) ∧
      (∀ host, (settings.renderFile source host).2.launches = host.launches ∨
        (settings.renderFile source host).2.launches = host.launches ++
          [⟨settings.dot, ["-T" ++ settings.format, "-o", drawing, source]⟩]) ∧
      (∀ host drawn, (settings.renderFile source host).1 = .ok drawn →
        drawn = drawing ∧ (settings.renderFile source host).2.launches = host.launches ++
          [⟨settings.dot, ["-T" ++ settings.format, "-o", drawing, source]⟩]) ∧
      Route.ofPath source =
        (Route.ofPath settings.outputDir).child (artifactStem document ++ ".gv") ∧
      Route.ofPath drawing =
        (Route.ofPath settings.outputDir).child
          (artifactStem document ++ "." ++ settings.format) ∧
      (∀ (tree : FileTree) directory taken sourcePlace drawingPlace,
        tree.newPlace directory (Route.ofPath source) taken = .ok sourcePlace →
        tree.newPlace directory (Route.ofPath drawing) taken = .ok drawingPlace →
          (∃ above, tree.walk (FileTree.origin directory (Route.ofPath settings.outputDir))
              (Route.ofPath settings.outputDir).names = .ok above ∧
            sourcePlace.dropLast = above ∧ drawingPlace.dropLast = above) ∧
          (drawingPlace = sourcePlace ↔ settings.format = "gv")) ∧
      (drawing = source ↔ settings.format = "gv") := by
  have given : settings.format ≠ "" := by
    rw [chosen]
    exact format_ne_empty surroundings lookup
  have gv : '/' ∉ "gv".toList := by decide
  have kept := sourcePath_eq_filePath settings document
  have path := drawingPath_eq_filePath given plain document
  refine ⟨settings.sourcePath (artifactStem document), settings.filePath document settings.format,
    rfl, rfl, path, rfl, fun _ _ _ => writeSource_ok, renderFile_launches path,
    fun _ _ => renderFile_ok path, ?_, ofPath_filePath plain, ?_, ?_⟩
  · rw [kept, ofPath_filePath gv, String.append_assoc]
    rfl
  · intro tree directory taken sourcePlace drawingPlace sourceFound drawingFound
    rw [kept, ofPath_filePath gv] at sourceFound
    rw [ofPath_filePath plain] at drawingFound
    obtain ⟨above, walks, rfl⟩ := FileTree.newPlace_child sourceFound
    obtain ⟨other, leads, rfl⟩ := FileTree.newPlace_child drawingFound
    obtain rfl : above = other := Except.ok.inj (walks.symm.trans leads)
    refine ⟨⟨above, walks, List.dropLast_concat, List.dropLast_concat⟩, ?_⟩
    rw [List.append_cancel_left_eq, List.singleton_inj]
    exact fileName_inj
  · rw [kept]
    exact filePath_inj plain gv

def askingFor (format : String) (name : String) : Option String :=
  if name = "HEAPGRAPH_FORMAT" then some format
  else if name = "HEAPGRAPH_OUTPUT_DIR" then some "out"
  else none

def asked (format : String) : Settings :=
  .ofLookup ⟨askingFor format, none⟩ (askingFor format)

theorem drawing_beside_source_svg :
    asked " SVG " = ⟨"out", "svg", none, "dot"⟩ ∧ ∃ source drawing : String,
      source = Path.join "out" (artifactStem [] ++ ".gv") ∧
      drawing = Path.join "out" (artifactStem [] ++ "." ++ "svg") ∧
      drawing ≠ source := by
  have settings : asked " SVG " = ⟨"out", "svg", none, "dot"⟩ := by decide +kernel
  obtain ⟨source, drawing, kept, drawn, _, _, _, _, _, _, _, _, same⟩ :=
    drawing_beside_source settings.symm (by decide) []
  exact ⟨settings, source, drawing, kept, drawn, fun equal => absurd (same.mp equal) (by decide)⟩

/-- The format `gv` makes Graphviz write over the source. One with a slash in it ends the program, and
the path it asks for is not right in the directory that is set. -/
theorem drawing_onto_source :
    (asked " GV ").drawingPath ((asked " GV ").sourcePath (artifactStem [])) =
        .ok ((asked " GV ").sourcePath (artifactStem [])) ∧
      asked "V/x" = ⟨"out", "v/x", none, "dot"⟩ ∧
      (∃ message, (asked "V/x").drawingPath ((asked "V/x").sourcePath (artifactStem [])) =
        .error message) ∧
      ¬∃ name, Route.ofPath (Path.join "out" (artifactStem [] ++ "." ++ "v/x")) =
        (Route.ofPath "out").child name := by
  have gv : asked " GV " = ⟨"out", "gv", none, "dot"⟩ := by decide +kernel
  have given : (asked " GV ").format ≠ "" ∧ '/' ∉ (asked " GV ").format.toList := by
    rw [gv]
    decide
  have slash : asked "V/x" = ⟨"out", "v/x", none, "dot"⟩ := by decide +kernel
  refine ⟨?_, slash, ?_, ?_⟩
  · rw [drawingPath_eq_filePath given.1 given.2, sourcePath_eq_filePath, gv]
  · rw [slash, drawingPath, Path.withExtension, if_pos (by decide)]
    exact ⟨_, rfl⟩
  · rintro ⟨name, direct⟩
    have front : '/' ∉ (artifactStem [] ++ "." ++ "v").toList := fileName_plain (by decide)
    have deeper : Path.join "out" (artifactStem [] ++ "." ++ "v/x") =
        Path.join (Path.join "out" (artifactStem [] ++ "." ++ "v")) "x" := by
      rw [Path.join_join "out" front (by simp) (by decide)]
      simp only [String.append_assoc]
      rfl
    rw [deeper, Path.ofPath_join _ (by decide) (by decide), Path.ofPath_join _ front (by simp)]
      at direct
    -- There is one name more than right in the directory.
    have count := congrArg (List.length ∘ Route.names) direct
    simp [Route.child] at count

end Settings

end HeapGraph

import HeapGraph.Proofs.Showing.Drawing

/-!
What showing a dump does to the machine. As long as there is no diagram nothing is touched. Then the
directories on the way to the output directory are made, the source is written, and the program that
draws and the one that opens are launched, each step only if those before it have succeeded.
-/

namespace HeapGraph

namespace Host

theorem launch_cases (host : Host) (name : String) (arguments : List String) :
    (∃ cause, host.launch name arguments = (.error cause, host)) ∨
      ∃ outcome, host.launch name arguments =
        (.ok outcome, { host with launches := host.launches ++ [⟨name, arguments⟩] }) := by
  unfold launch
  split
  · exact .inl ⟨_, rfl⟩
  · split
    · exact .inl ⟨_, rfl⟩
    · exact .inr ⟨_, rfl⟩

theorem launch_fst (host : Host) (launches : List Launch) (name : String)
    (arguments : List String) :
    (launch { host with launches } name arguments).1 = (host.launch name arguments).1 := by
  have same : program? { host with launches } name = host.program? name := rfl
  unfold launch
  rw [same]
  split
  · rfl
  · split <;> rfl

/-- What a launch stands for runs and ends well. -/
def Succeeds (host : Host) (launch : Launch) : Prop :=
  ∃ outcome, (host.launch launch.program launch.arguments).1 = .ok outcome ∧
    outcome.ending = .exited 0

theorem succeeds_iff (host : Host) (launches : List Launch) (launch : Launch) :
    Succeeds { host with launches } launch ↔ host.Succeeds launch := by
  rw [Succeeds, Succeeds, launch_fst]

end Host

namespace Settings

variable (settings : Settings)

/-- Nothing stands elsewhere than before but directories on the way to the output directory. -/
def Prepared (host : Host) (files : FileTree) : Prop :=
  ∀ place, files.entry? place = host.files.entry? place ∨
    host.files.Laid files host.directory settings.outputDir place

/-- Nothing has changed but that there are directories on the way to the output directory, and the
source at its path. -/
def Written (host : Host) (stem source : String) (files : FileTree) : Prop :=
  ∀ place, files.entry? place = host.files.entry? place ∨
    host.files.Laid files host.directory settings.outputDir place ∨
    host.files.Filed files host.directory (settings.sourcePath stem) (Text.utf8 source) place

theorem Prepared.written {settings : Settings} {host : Host} {files : FileTree}
    (prepared : settings.Prepared host files) (stem source : String) :
    settings.Written host stem source files :=
  fun place => (prepared place).imp_right .inl

theorem writeSource_cases (stem source : String) (host : Host) :
    ∃ files, (∃ error,
        settings.writeSource stem source host = (.error error, { host with files }) ∧
        settings.Prepared host files) ∨
      settings.writeSource stem source host =
          (.ok (settings.sourcePath stem), { host with files }) ∧
        files.read host.directory (settings.sourcePath stem) = .ok (Text.utf8 source) ∧
        settings.Written host stem source files := by
  obtain ⟨paved, laid⟩ :=
    host.files.makeDirectories_laid host.directory settings.outputDir
  unfold writeSource Host.makeDirectories Host.write
  dsimp only
  generalize host.files.makeDirectories host.directory settings.outputDir = made at paved laid ⊢
  obtain ⟨outcome, middle⟩ := made
  cases outcome with
  | error cause => exact ⟨middle, .inl ⟨_, rfl, laid⟩⟩
  | ok =>
      dsimp only
      split
      · rename_i cause failed
        split at failed
        · exact ⟨middle, .inl ⟨_, rfl, laid⟩⟩
        · cases failed
      · rename_i after succeeded
        split at succeeded
        · cases succeeded
        rename_i files written
        cases succeeded
        obtain ⟨grows, reads, filed⟩ := FileTree.write_filed written
        refine ⟨files, .inr ⟨rfl, reads, fun place => ?_⟩⟩
        rcases filed place with same | ⟨route, routed, leads, free, stands⟩
        · rw [same]
          exact (laid place).imp_right fun isLaid => .inl (isLaid.grow grows)
        · rcases laid place with unchanged | ⟨_, _, _, _, directory⟩
          · have kept : middle.isExecutable place = host.files.isExecutable place := by
              rw [FileTree.isExecutable, FileTree.isExecutable, unchanged]
            exact .inr (.inr ⟨route, routed, leads, unchanged ▸ free, kept ▸ stands⟩)
          · exact absurd directory free

def drawingLaunch (source drawing : String) : Launch :=
  ⟨settings.dot, settings.drawingArguments source drawing⟩

def openingLaunch (drawing : String) : Launch :=
  ⟨settings.opener, [drawing]⟩

theorem renderFile_cases (source : String) (host : Host) :
    (∃ halt, settings.renderFile source host = (.error halt, host)) ∨
      ∃ drawing, settings.drawingPath source = .ok drawing ∧
        ((∃ halt, settings.renderFile source host = (.error halt,
            { host with launches := host.launches ++ [settings.drawingLaunch source drawing] })) ∨
          host.Succeeds (settings.drawingLaunch source drawing) ∧
            settings.renderFile source host = (.ok drawing,
              { host with
                launches := host.launches ++ [settings.drawingLaunch source drawing] })) := by
  unfold renderFile
  cases placed : settings.drawingPath source with
  | error message => exact .inl ⟨_, rfl⟩
  | ok drawing =>
      dsimp only
      rcases host.launch_cases settings.dot (settings.drawingArguments source drawing) with
        ⟨cause, failed⟩ | ⟨outcome, launched⟩
      · rw [failed]
        exact .inl ⟨_, rfl⟩
      · refine .inr ⟨drawing, rfl, ?_⟩
        rw [launched]
        dsimp only
        split
        · rename_i succeeded
          have runs : (host.launch settings.dot (settings.drawingArguments source drawing)).1 =
              .ok outcome := by rw [launched]
          exact .inr ⟨⟨outcome, runs, of_decide_eq_true succeeded⟩, rfl⟩
        · exact .inl ⟨_, rfl⟩

theorem openFile_cases (drawing : String) (host : Host) :
    (∃ error, settings.openFile drawing host = (.error error, host)) ∨
      settings.openFile drawing host = (.ok (),
        { host with launches := host.launches ++ [settings.openingLaunch drawing] }) := by
  unfold openFile
  rcases host.launch_cases settings.opener [drawing] with ⟨cause, failed⟩ | ⟨outcome, launched⟩
  · rw [failed]
    exact .inl ⟨_, rfl⟩
  · rw [launched]
    exact .inr rfl

/-- How far the viewing of a source comes: what has been launched when it ends, and the answer. The
programs are launched once the files are as they stay. -/
inductive Ends (host : Host) (stem source : String) (files : FileTree) :
    List Launch → Except (Halt ViewError) String → Prop
  | unwritten (error : ViewError)
      (failed : (settings.writeSource stem source host).1 = .error error)
      (prepared : settings.Prepared host files) :
      Ends host stem source files [] (.error (.failed error))
  | unlaunched (halt : Halt ViewError)
      (written : (settings.writeSource stem source host).1 = .ok (settings.sourcePath stem)) :
      Ends host stem source files [] (.error halt)
  | unopened (halt : Halt ViewError) {drawing : String}
      (written : (settings.writeSource stem source host).1 = .ok (settings.sourcePath stem))
      (placed : settings.drawingPath (settings.sourcePath stem) = .ok drawing) :
      Ends host stem source files [settings.drawingLaunch (settings.sourcePath stem) drawing]
        (.error halt)
  | opened {drawing : String}
      (written : (settings.writeSource stem source host).1 = .ok (settings.sourcePath stem))
      (placed : settings.drawingPath (settings.sourcePath stem) = .ok drawing)
      (reads : files.read host.directory (settings.sourcePath stem) = .ok (Text.utf8 source))
      (drawn : Host.Succeeds { host with files }
        (settings.drawingLaunch (settings.sourcePath stem) drawing)) :
      Ends host stem source files
        [settings.drawingLaunch (settings.sourcePath stem) drawing, settings.openingLaunch drawing]
        (.ok drawing)

namespace Ends

variable {settings : Settings} {host : Host} {stem source : String} {files : FileTree}
  {launched : List Launch} {answer : Except (Halt ViewError) String}

theorem of_write_error (ends : settings.Ends host stem source files launched answer)
    {error : ViewError} (failed : (settings.writeSource stem source host).1 = .error error) :
    answer = .error (.failed error) ∧ settings.Prepared host files ∧ launched = [] := by
  cases ends with
  | unwritten other otherwise prepared =>
      rw [failed] at otherwise
      cases otherwise
      exact ⟨rfl, prepared, rfl⟩
  | unlaunched other written => rw [failed] at written; cases written
  | unopened other written => rw [failed] at written; cases written
  | opened written => rw [failed] at written; cases written

/-- The program that draws is launched first, and then, if it has succeeded, the one that opens. -/
theorem launched_prefix (ends : settings.Ends host stem source files launched answer) :
    launched = [] ∨ ∃ drawing, settings.drawingPath (settings.sourcePath stem) = .ok drawing ∧
      launched <+: [settings.drawingLaunch (settings.sourcePath stem) drawing,
        settings.openingLaunch drawing] ∧
      (launched.length = 2 → answer = .ok drawing ∧ Host.Succeeds { host with files }
        (settings.drawingLaunch (settings.sourcePath stem) drawing)) := by
  cases ends with
  | unwritten => exact .inl rfl
  | unlaunched => exact .inl rfl
  | unopened halt written placed =>
      exact .inr ⟨_, placed, List.prefix_append _ _, fun both => by cases both⟩
  | opened written placed reads drawn =>
      exact .inr ⟨_, placed, List.prefix_rfl, fun _ => ⟨rfl, drawn⟩⟩

theorem of_ok (ends : settings.Ends host stem source files launched answer) {drawing : String}
    (succeeded : answer = .ok drawing) :
      files.read host.directory (settings.sourcePath stem) = .ok (Text.utf8 source) ∧
      Host.Succeeds { host with files }
        (settings.drawingLaunch (settings.sourcePath stem) drawing) ∧
      launched = [settings.drawingLaunch (settings.sourcePath stem) drawing,
        settings.openingLaunch drawing] := by
  cases ends with
  | unwritten => cases succeeded
  | unlaunched => cases succeeded
  | unopened => cases succeeded
  | opened written placed reads drawn =>
      obtain rfl := Except.ok.inj succeeded
      exact ⟨reads, drawn, rfl⟩

end Ends

theorem view_ends (document : List UInt8) (source : String) (host : Host) :
    ∃ answer files launched, settings.view document source host =
        (answer, { host with files, launches := host.launches ++ launched }) ∧
      settings.Written host (artifactStem document) source files ∧
      settings.Ends host (artifactStem document) source files launched answer := by
  obtain ⟨files, ⟨error, failed, prepared⟩ | ⟨written, reads, changes⟩⟩ :=
    settings.writeSource_cases (artifactStem document) source host
  · refine ⟨.error (.failed error), files, [], ?_, prepared.written _ _,
      .unwritten error (by rw [failed]) prepared⟩
    simp only [view, failed, List.append_nil]
  have done : (settings.writeSource (artifactStem document) source host).1 =
      .ok (settings.sourcePath (artifactStem document)) := by rw [written]
  rcases settings.renderFile_cases (settings.sourcePath (artifactStem document))
    { host with files } with ⟨halt, failed⟩ | ⟨drawing, placed, ⟨halt, failed⟩ | ⟨succeeds, drawn⟩⟩
  · refine ⟨.error halt, files, [], ?_, changes, .unlaunched halt done⟩
    simp only [view, written, failed, List.append_nil]
  · refine ⟨.error halt, files, _, ?_, changes, .unopened halt done placed⟩
    simp only [view, written, failed]
  rcases settings.openFile_cases drawing
    { host with
      files
      launches := host.launches ++
        [settings.drawingLaunch (settings.sourcePath (artifactStem document)) drawing] } with
    ⟨error, failed⟩ | opened
  · refine ⟨.error (.failed error), files, _, ?_, changes, .unopened _ done placed⟩
    simp only [view, written, drawn, failed]
  · refine ⟨.ok drawing, files, _, ?_, changes, .opened done placed reads succeeds⟩
    simp only [view, written, drawn, opened, List.append_assoc, List.singleton_append]

end Settings

/-- The document is that in the file, and the diagram that of its graph once it is pruned. -/
structure DrawnDump.Depicts (drawn : DrawnDump) (host : Host) (path : String) : Prop where
  document : host.read path = .ok drawn.document
  diagram : ∃ dump graph report left, Dump.decode .whole drawn.document = .ok dump ∧
    Graph.ofDump dump = .ok graph ∧ graph.prune = .ok (report, left) ∧
    Diagram.render 100 left = .ok drawn.diagram

theorem draw_eq_ok_iff {host : Host} {path : String} {drawn : DrawnDump} :
    draw host path = .ok drawn ↔ drawn.Depicts host path := by
  constructor
  · intro succeeds
    unfold draw at succeeds
    split at succeeds
    · cases succeeds
    rename_i document readable
    split at succeeds
    · cases succeeds
    rename_i dump decoded
    split at succeeds
    · cases succeeds
    rename_i graph accepted
    split at succeeds
    · cases succeeds
    rename_i report left pruned
    split at succeeds
    · cases succeeds
    rename_i diagram rendered
    cases succeeds
    exact ⟨readable, dump, graph, report, left, decode_eq_ok_iff_read.mpr decoded, accepted,
      pruned, rendered⟩
  · rintro ⟨readable, dump, graph, report, left, decoded, accepted, pruned, rendered⟩
    rw [← Diagram.defaultCap] at rendered
    simp only [draw, readable, decode_eq_ok_iff_read.mp decoded, accepted, pruned, rendered]

inductive Undrawn (host : Host) (path : String) : ShowError → Prop
  | unreadable {cause : OsError} (failed : host.read path = .error cause) :
      Undrawn host path (.unreadable path cause)
  | undecodable {document : List UInt8} {mistake : Json.Mistake}
      (readable : host.read path = .ok document)
      (failed : Dump.read .whole document = .error mistake) :
      Undrawn host path (.undecodable path mistake)
  | duplicate {document : List UInt8} {dump : Dump} {id : String}
      (readable : host.read path = .ok document) (decoded : Dump.decode .whole document = .ok dump)
      (refused : Graph.ofDump dump = .error (.duplicate id)) :
      Undrawn host path (.inconsistent path (.duplicate id))
  | unknownEndpoint {document : List UInt8} {dump : Dump} {src dst missing : String}
      (readable : host.read path = .ok document) (decoded : Dump.decode .whole document = .ok dump)
      (refused : Graph.ofDump dump = .error (.malformed src dst missing)) :
      Undrawn host path (.inconsistent path (.malformed src dst missing))
  | unknownColor {document : List UInt8} {dump : Dump} {kept : List Node} {node : Node}
      (readable : host.read path = .ok document) (decoded : Dump.decode .whole document = .ok dump)
      (survivors : dump.Survivors kept) (survives : node ∈ kept)
      (unmarked : node.color.tag ∉ Diagram.markTags) :
      Undrawn host path (.undrawable path (.unknownColor node.id node.color.tag))

theorem undrawn_of_draw {host : Host} {path : String} {error : ShowError}
    (failed : draw host path = .error error) : Undrawn host path error := by
  cases readable : host.read path with
  | error cause =>
      simp only [draw, readable, Except.error.injEq] at failed
      exact failed ▸ .unreadable readable
  | ok document =>
      cases outcome : Dump.read .whole document with
      | error mistake =>
          simp only [draw, readable, outcome, Except.error.injEq] at failed
          exact failed ▸ .undecodable readable outcome
      | ok dump =>
          have decoded := decode_eq_ok_iff_read.mpr outcome
          cases accepted : Graph.ofDump dump with
          | error refusal =>
              simp only [draw, readable, outcome, accepted, Except.error.injEq] at failed
              rcases Graph.ofRecords_error accepted with ⟨id, rfl⟩ | ⟨src, dst, missing, rfl⟩
              · exact failed ▸ .duplicate readable decoded accepted
              · exact failed ▸ .unknownEndpoint readable decoded accepted
          | ok graph =>
              obtain ⟨kept, survivors, drawing⟩ := draw_of_accepted readable decoded accepted
              rw [drawing, DrawnDump.outcome_eq_error] at failed
              obtain ⟨cause, stopped, rfl⟩ := failed
              obtain ⟨before, node, after, rfl, _, unmarked, rfl⟩ := Diagram.sketch_error
                (fun node inside => Dump.color_recognized decoded node (survivors.listed inside))
                stopped
              exact .unknownColor readable decoded survivors (by simp) unmarked

theorem showDump_of_undrawn {settings : Settings} {path : String} {host : Host} {error : ShowError}
    (failed : draw host path = .error error) :
    showDump settings path host = (.error (.failed error), host) := by
  simp only [showDump, failed]

theorem showDump_eq_view (settings : Settings) {path : String} {host : Host} {drawn : DrawnDump}
    (succeeds : draw host path = .ok drawn) :
    showDump settings path host =
      Prod.map (Except.mapError (Halt.map (.unviewable path))) id
        (settings.view drawn.document drawn.diagram host) := by
  simp only [showDump, succeeds]
  rcases settings.view drawn.document drawn.diagram host with ⟨_ | _, after⟩ <;> rfl

theorem showDump_of_drawn (settings : Settings) {path : String} {host : Host} {drawn : DrawnDump}
    (succeeds : draw host path = .ok drawn) :
    ∃ answer files launched, showDump settings path host =
        (answer.mapError (Halt.map (.unviewable path)),
          { host with files, launches := host.launches ++ launched }) ∧
      settings.Written host (artifactStem drawn.document) drawn.diagram files ∧
      settings.Ends host (artifactStem drawn.document) drawn.diagram files launched answer := by
  obtain ⟨answer, files, launched, viewed, changes, ends⟩ :=
    settings.view_ends drawn.document drawn.diagram host
  refine ⟨answer, files, launched, ?_, changes, ends⟩
  rw [showDump_eq_view settings succeeds, viewed]
  rfl

/-- A dump that cannot be drawn leaves everything as it was. One that can be drawn changes no files but
for its source and the directories above that, and programs are only launched once the source is
there, the one that opens only once the one that draws has succeeded. A path is answered just when
all of this has been done for it. -/
theorem showDump_effects (settings : Settings) (path : String) (host : Host) :
    (∀ error, draw host path = .error error →
      Undrawn host path error ∧ showDump settings path host = (.error (.failed error), host)) ∧
    (∀ drawn, draw host path = .ok drawn →
      ∃ answer files launched, showDump settings path host =
          (answer, { host with files, launches := host.launches ++ launched }) ∧
        settings.Written host (artifactStem drawn.document) drawn.diagram files ∧
        (∀ error, (settings.writeSource (artifactStem drawn.document) drawn.diagram host).1 =
            .error error →
          answer = .error (.failed (.unviewable path error)) ∧ settings.Prepared host files ∧
            launched = []) ∧
        (launched = [] ∨ ∃ drawing,
          settings.drawingPath (settings.sourcePath (artifactStem drawn.document)) = .ok drawing ∧
          launched <+: [settings.drawingLaunch (settings.sourcePath (artifactStem drawn.document))
            drawing, settings.openingLaunch drawing] ∧
          (launched.length = 2 → (showDump settings path host).2.Succeeds
            (settings.drawingLaunch (settings.sourcePath (artifactStem drawn.document))
              drawing)))) ∧
    ∀ drawing, (showDump settings path host).1 = .ok drawing ↔
      ∃ (drawn : DrawnDump) (source : String), drawn.Depicts host path ∧
        source = settings.sourcePath (artifactStem drawn.document) ∧
        (showDump settings path host).2.read source = .ok (Text.utf8 drawn.diagram) ∧
        (showDump settings path host).2.Succeeds
          ⟨settings.dot, ["-T" ++ settings.format, "-o", drawing, source]⟩ ∧
        (showDump settings path host).2.launches = host.launches ++
          [⟨settings.dot, ["-T" ++ settings.format, "-o", drawing, source]⟩,
            ⟨settings.opener, [drawing]⟩] := by
  refine ⟨fun error failed => ⟨undrawn_of_draw failed, showDump_of_undrawn failed⟩, ?_, ?_⟩
  · intro drawn succeeds
    obtain ⟨answer, files, launched, shown, changes, ends⟩ := showDump_of_drawn settings succeeds
    refine ⟨_, files, launched, shown, changes, fun error failed => ?_, ?_⟩
    · obtain ⟨rfl, prepared, none⟩ := ends.of_write_error failed
      exact ⟨rfl, prepared, none⟩
    · refine ends.launched_prefix.imp_right ?_
      rintro ⟨drawing, placed, order, both⟩
      refine ⟨drawing, placed, order, fun two => ?_⟩
      rw [shown]
      exact (Host.succeeds_iff { host with files } _ _).mpr (both two).2
  · intro drawing
    constructor
    · intro answered
      cases outcome : draw host path with
      | error error =>
          rw [showDump_of_undrawn outcome] at answered
          cases answered
      | ok drawn =>
          obtain ⟨answer, files, launched, shown, _, ends⟩ := showDump_of_drawn settings outcome
          rw [shown] at answered ⊢
          cases answer with
          | error halt => cases answered
          | ok found =>
              obtain rfl : found = drawing := Except.ok.inj answered
              obtain ⟨reads, succeeds, rfl⟩ := ends.of_ok rfl
              exact ⟨drawn, _, draw_eq_ok_iff.mp outcome, rfl, reads,
                (Host.succeeds_iff { host with files } _ _).mpr succeeds, rfl⟩
    · rintro ⟨drawn, source, depicts, rfl, _, _, launches⟩
      obtain ⟨answer, files, launched, shown, _, ends⟩ :=
        showDump_of_drawn settings (draw_eq_ok_iff.mpr depicts)
      rw [shown] at launches ⊢
      have both := List.append_cancel_left launches
      rcases ends.launched_prefix with none | ⟨found, _, order, answered⟩
      · rw [none] at both
        cases both
      obtain ⟨rfl, _⟩ := answered (by rw [both]; rfl)
      -- What is opened is the drawing that is answered.
      have same := List.IsPrefix.eq_of_length order (by rw [both]; rfl)
      rw [both] at same
      simp only [Settings.openingLaunch, List.cons.injEq, Launch.mk.injEq] at same
      obtain ⟨_, ⟨_, equal, _⟩, _⟩ := same
      rw [equal]
      rfl

def loneDump : Dump :=
  ⟨[Graph.exampleNode "b" false], []⟩

def quietProgram : Program :=
  ⟨false, [], .exited 0⟩

/-- A machine with a dump, a program at the path `bin/dot`, and one that the name `xdg-open` is for. -/
def readyHost : Host where
  files := ((FileTree.empty.put ["h.json"] (.file (Text.utf8 loneDump.write) false)).put ["bin"]
    .directory).put ["bin", "dot"] (.file [] true)
  directory := []
  programs := (∅ : Std.ExtTreeMap String (Except OsError Program)).insert "xdg-open"
    (.ok quietProgram)
  loader _ := .ok quietProgram
  launches := []

def readySettings : Settings :=
  ⟨"out", "svg", none, "bin/dot"⟩

theorem draw_readyHost :
    ∃ diagram, draw readyHost "h.json" = .ok ⟨Text.utf8 loneDump.write, diagram⟩ := by
  have stands : readyHost.files.entry? ["h.json"] =
      some (.file (Text.utf8 loneDump.write) false) := by
    simp [readyHost, FileTree.entry?_put]
  have readable : readyHost.read "h.json" = .ok (Text.utf8 loneDump.write) :=
    FileTree.read_of_name rfl (by decide) (by decide) stands
  obtain ⟨graph, accepted⟩ : ∃ graph, Graph.ofDump loneDump = .ok graph :=
    Graph.ofRecords_ok loneDump.nodes loneDump.references (by decide) (by decide)
  obtain ⟨kept, survivors, drawing⟩ :=
    draw_of_accepted readable (decode_of_recognized rfl) accepted
  have white (node : Node) (inside : node ∈ kept) : node.color = .white := by
    rw [List.mem_singleton.mp (survivors.listed inside)]
    rfl
  obtain ⟨diagram, sketched⟩ : ∃ diagram,
      Diagram.sketch kept (loneDump.between kept) = .ok diagram :=
    (Diagram.sketch_ok_iff fun node inside => by rw [white node inside]; rfl).mpr
      fun node inside => by rw [white node inside]; decide
  exact ⟨diagram, by rw [drawing, sketched]; rfl⟩

theorem showDump_effects_ready :
    ∃ diagram, (showDump readySettings "h.json" readyHost).1 =
        .ok "out/object-references-1f65074123923083.svg" ∧
      (showDump readySettings "h.json" readyHost).2.read
        "out/object-references-1f65074123923083.gv" = .ok (Text.utf8 diagram) ∧
      (showDump readySettings "h.json" readyHost).2.launches =
        [⟨"bin/dot", ["-Tsvg", "-o", "out/object-references-1f65074123923083.svg",
            "out/object-references-1f65074123923083.gv"]⟩,
          ⟨"xdg-open", ["out/object-references-1f65074123923083.svg"]⟩] := by
  obtain ⟨diagram, drawn⟩ := draw_readyHost
  have stem : artifactStem (Text.utf8 loneDump.write) = "object-references-1f65074123923083" := by
    decide +kernel
  have viewed : (readySettings.view (Text.utf8 loneDump.write) diagram readyHost).1 =
      .ok "out/object-references-1f65074123923083.svg" := by
    rw [Settings.view, stem]
    rfl
  have answered : (showDump readySettings "h.json" readyHost).1 =
      .ok "out/object-references-1f65074123923083.svg" := by
    rw [showDump_eq_view _ drawn, Prod.map_fst, viewed]
    rfl
  obtain ⟨found, source, depicts, rfl, reads, _, launches⟩ :=
    ((showDump_effects readySettings "h.json" readyHost).2.2 _).mp answered
  obtain rfl : found = ⟨Text.utf8 loneDump.write, diagram⟩ :=
    Except.ok.inj ((draw_eq_ok_iff.mpr depicts).symm.trans drawn)
  rw [stem] at reads launches
  exact ⟨diagram, answered, reads, launches⟩

end HeapGraph

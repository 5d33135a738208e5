import HeapGraph.CommandLine.Basic
import HeapGraph.Proofs.Showing.Effects

/-!
How a failure is told. The outermost message names the file that the dump was to come from and the
stage that has failed, what that stage has to say comes right behind it, and the program ends with both.
-/

namespace HeapGraph

/-- The outermost message and the causes below it when the dump at a path cannot be shown: one case
for each thing that may go wrong, given that nothing has before. -/
inductive Settings.Fails (settings : Settings) (host : Host) (path : String) :
    (outermost : String) → (causes : List String) → Prop
  | reading {cause : OsError} (unreadable : host.read path = .error cause) :
      Fails settings host path ("failed to read " ++ path ++ ": " ++ cause.message) [cause.message]
  | decoding {document : List UInt8} {mistake : Json.Mistake}
      (readable : host.read path = .ok document)
      (undecodable : Dump.decode .whole document = .error (.invalid mistake)) :
      Fails settings host path ("failed to decode " ++ path)
        ["invalid heap graph document: " ++ mistake.message, mistake.message]
  | repetition {document : List UInt8} {dump : Dump} {id : String}
      (readable : host.read path = .ok document) (decoded : Dump.decode .whole document = .ok dump)
      (refused : Graph.ofDump dump = .error (.duplicate id)) :
      Fails settings host path ("inconsistent heap graph in " ++ path)
        ["node " ++ id ++ " appears more than once"]
  | dangling {document : List UInt8} {dump : Dump} {src dst missing : String}
      (readable : host.read path = .ok document) (decoded : Dump.decode .whole document = .ok dump)
      (refused : Graph.ofDump dump = .error (.malformed src dst missing)) :
      Fails settings host path ("inconsistent heap graph in " ++ path)
        ["edge " ++ src ++ " -> " ++ dst ++ " references unknown node " ++ missing]
  | rendering {document : List UInt8} {dump : Dump} {graph left : Graph} {report : PruneReport}
      {id tag : String} (readable : host.read path = .ok document)
      (decoded : Dump.decode .whole document = .ok dump) (accepted : Graph.ofDump dump = .ok graph)
      (pruned : graph.prune = .ok (report, left))
      (undrawable : Diagram.render 100 left = .error (.unknownColor id tag)) :
      Fails settings host path ("failed to render " ++ path)
        ["node " ++ id ++ " has unknown color tag " ++ Text.quote tag]
  | writing {drawn : DrawnDump} {place : String} {cause : OsError}
      (depicts : drawn.Depicts host path)
      (unwritten : (settings.view drawn.document drawn.diagram host).1 =
        .error (.failed (.unwritten place cause))) :
      Fails settings host path ("failed to display graph for " ++ path)
        ["failed to write " ++ place ++ ": " ++ cause.message, cause.message]
  | launching {drawn : DrawnDump} {program : String} {cause : OsError}
      (depicts : drawn.Depicts host path)
      (unlaunched : (settings.view drawn.document drawn.diagram host).1 =
        .error (.failed (.unlaunched program cause))) :
      Fails settings host path ("failed to display graph for " ++ path)
        ["failed to launch " ++ program ++ ": " ++ cause.message, cause.message]
  | drawing {drawn : DrawnDump} {ending : Ending} {stderr : String}
      (depicts : drawn.Depicts host path)
      (undrawn : (settings.view drawn.document drawn.diagram host).1 =
        .error (.failed (.undrawn ending stderr))) :
      Fails settings host path ("failed to display graph for " ++ path)
        ["graphviz exited with " ++ ending.describe ++ ": " ++ stderr]

section Stages

variable {settings : Settings} {host : Host} {path : String}

theorem showDump_of_unviewed {drawn : DrawnDump} {error : ViewError}
    (depicts : drawn.Depicts host path)
    (failed : (settings.view drawn.document drawn.diagram host).1 = .error (.failed error)) :
    (showDump settings path host).1 = .error (.failed (.unviewable path error)) := by
  rw [showDump_eq_view settings (draw_eq_ok_iff.mpr depicts), Prod.map_fst, failed]
  rfl

theorem Settings.Fails.showDump {outermost : String} {causes : List String}
    (fails : settings.Fails host path outermost causes) :
    ∃ error, (showDump settings path host).1 = .error (.failed error) ∧
      error.messages = outermost :: causes := by
  have undrawn {error : ShowError} (failed : draw host path = .error error) :
      (HeapGraph.showDump settings path host).1 = .error (.failed error) := by
    rw [showDump_of_undrawn failed]
  cases fails with
  | @reading cause unreadable =>
      have failed : draw host path = .error (.unreadable path cause) := by
        simp only [draw, unreadable]
      exact ⟨_, undrawn failed, rfl⟩
  | @decoding document mistake readable undecodable =>
      have failed : draw host path = .error (.undecodable path mistake) := by
        simp only [draw, readable, decode_eq_error_iff_read.mp undecodable]
      exact ⟨_, undrawn failed, rfl⟩
  | @repetition _ _ id readable decoded refused =>
      have failed : draw host path = .error (.inconsistent path (.duplicate id)) := by
        simp only [draw, readable, decode_eq_ok_iff_read.mp decoded, refused]
      exact ⟨_, undrawn failed, rfl⟩
  | @dangling _ _ src dst missing readable decoded refused =>
      have failed : draw host path = .error (.inconsistent path (.malformed src dst missing)) := by
        simp only [draw, readable, decode_eq_ok_iff_read.mp decoded, refused]
      exact ⟨_, undrawn failed, rfl⟩
  | @rendering _ _ _ _ _ id tag readable decoded accepted pruned undrawable =>
      have failed : draw host path = .error (.undrawable path (.unknownColor id tag)) := by
        rw [← Diagram.defaultCap] at undrawable
        simp only [draw, readable, decode_eq_ok_iff_read.mp decoded, accepted, pruned, undrawable]
      exact ⟨_, undrawn failed, rfl⟩
  | writing depicts unwritten => exact ⟨_, showDump_of_unviewed depicts unwritten, rfl⟩
  | launching depicts unlaunched => exact ⟨_, showDump_of_unviewed depicts unlaunched, rfl⟩
  | drawing depicts undrawn => exact ⟨_, showDump_of_unviewed depicts undrawn, rfl⟩

theorem Settings.Fails.unique {outermost other : String} {causes below : List String}
    (fails : settings.Fails host path outermost causes)
    (otherwise : settings.Fails host path other below) : other = outermost ∧ below = causes := by
  obtain ⟨error, failed, messages⟩ := fails.showDump
  obtain ⟨same, again, texts⟩ := otherwise.showDump
  obtain rfl : same = error := Halt.failed.inj (Except.error.inj (again.symm.trans failed))
  exact List.cons_eq_cons.mp (texts.symm.trans messages)

end Stages

namespace CommandLine

end CommandLine

end HeapGraph

import HeapGraph.Host.FileTree
import HeapGraph.Proofs.Loops

/-!
What making directories and writing files leaves behind. Directories are only made where nothing stood,
on the way to the one that was asked for, whether or not it is reached; and a file is changed in its
own place alone, where its path leads from then on.
-/

namespace HeapGraph

namespace Route

structure Begins (part route : Route) : Prop where
  absolute : part.absolute = route.absolute
  names : part.names <+: route.names

theorem Begins.refl (route : Route) : route.Begins route :=
  ⟨rfl, List.prefix_rfl⟩

theorem Begins.trans {first second route : Route} (part : first.Begins second)
    (rest : second.Begins route) : first.Begins route :=
  ⟨part.absolute.trans rest.absolute, part.names.trans rest.names⟩

theorem trimIdle_begins (route : Route) : route.trimIdle.Begins route := by
  unfold trimIdle
  dsimp only
  split
  · exact ⟨rfl, List.take_prefix 1 route.names⟩
  · refine ⟨rfl, ?_⟩
    rw [← List.reverse_suffix, List.reverse_reverse]
    exact List.dropWhile_suffix _

theorem parent_begins (route : Route) : route.parent.Begins route := by
  have above : (⟨route.absolute, route.trimIdle.names.dropLast, false⟩ : Route).Begins route :=
    ⟨rfl, (List.dropLast_prefix _).trans route.trimIdle_begins.names⟩
  unfold parent
  dsimp only
  split
  · exact above
  · exact (trimIdle_begins _).trans above

theorem upward_begins {route part : Route} {count : Nat} (listed : part ∈ route.upward count) :
    part.Begins route := by
  induction count generalizing route with
  | zero => cases listed
  | succ count ih =>
      rw [upward] at listed
      split at listed
      · cases listed
      · rcases List.mem_cons.mp listed with rfl | higher
        · exact .refl part
        · exact (ih higher).trans route.parent_begins

end Route

namespace FileTree

variable {tree middle after : FileTree} {directory : List String}

theorem entry?_put (tree : FileTree) {place : List String} (entry : Entry) (below : place ≠ [])
    (other : List String) :
    entry? (tree.put place entry) other = if other = place then some entry else tree.entry? other := by
  unfold entry? put
  by_cases same : other = place
  · subst same
    simp [below]
  · have apart : compare place other ≠ .eq := by
      simpa [Std.LawfulEqOrd.compare_eq_iff_eq] using Ne.symm same
    simp [same, Std.ExtTreeMap.getElem?_insert, apart]

/-- Directories stay directories, and where something stands something stays. -/
structure Grows (tree after : FileTree) : Prop where
  directory : ∀ place, tree.entry? place = some .directory → after.entry? place = some .directory
  isSome : ∀ place, (tree.entry? place).isSome → (after.entry? place).isSome

namespace Grows

theorem refl (tree : FileTree) : tree.Grows tree :=
  ⟨fun _ => id, fun _ => id⟩

theorem trans (first : tree.Grows middle) (second : middle.Grows after) : tree.Grows after :=
  ⟨fun place stands => second.directory place (first.directory place stands),
    fun place stands => second.isSome place (first.isSome place stands)⟩

theorem put {place : List String} (entry : Entry) (below : place ≠ [])
    (free : tree.entry? place ≠ some .directory) : tree.Grows (tree.put place entry) := by
  constructor
  · intro other stands
    have apart : other ≠ place := by
      rintro rfl
      exact free stands
    rw [entry?_put tree entry below, if_neg apart, stands]
  · intro other stands
    rw [entry?_put tree entry below]
    split
    · rfl
    · exact stands

theorem step (grows : tree.Grows after) {place next : List String} {name : String}
    (steps : tree.step place name = .ok next) : after.step place name = .ok next := by
  unfold FileTree.step at steps ⊢
  split at steps
  · cases steps
  rename_i stands
  have directory := grows.directory place (by simpa using stands)
  simp only [directory, bne_self_eq_false, Bool.false_eq_true, if_false]
  split at steps
  · rename_i idle
    simpa [idle] using steps
  rename_i notIdle
  split at steps
  · rename_i up
    simpa [up] using steps
  rename_i notUp
  split at steps
  · cases steps
  rename_i short
  split at steps
  · rename_i found
    simpa [notIdle, notUp, short, grows.isSome _ found] using steps
  · cases steps

theorem walk (grows : tree.Grows after) {names : List String} {start place : List String}
    (walks : tree.walk start names = .ok place) : after.walk start names = .ok place := by
  induction names generalizing start with
  | nil => exact walks
  | cons name names ih =>
      obtain ⟨next, steps, rest⟩ := foldlM_cons_ok walks
      rw [FileTree.walk, List.foldlM_cons, grows.step steps]
      exact ih rest

end Grows

def OnTheWay (tree : FileTree) (directory : List String) (route : Route) (place : List String) :
    Prop :=
  ∃ names, names <+: route.names ∧ tree.walk (origin directory route) names = .ok place

/-- Nothing has changed, but that directories now stand on the way of a route where nothing stood. -/
structure Paved (tree after : FileTree) (directory : List String) (route : Route) : Prop where
  grows : tree.Grows after
  laid : ∀ place, after.entry? place = tree.entry? place ∨
    tree.entry? place = none ∧ after.entry? place = some .directory ∧
      after.OnTheWay directory route place

namespace Paved

variable {route : Route}

theorem refl (tree : FileTree) : tree.Paved tree directory route :=
  ⟨.refl tree, fun _ => .inl rfl⟩

theorem trans (first : tree.Paved middle directory route)
    (second : middle.Paved after directory route) : tree.Paved after directory route := by
  refine ⟨first.grows.trans second.grows, fun place => ?_⟩
  rcases first.laid place with same | ⟨bare, stands, names, part, walks⟩
  · rw [← same]
    exact second.laid place
  · exact .inr ⟨bare, second.grows.directory place stands, names, part, second.grows.walk walks⟩

end Paved

theorem newPlace_ok {route : Route} {taken : OsError} {place : List String}
    (found : tree.newPlace directory route taken = .ok place) :
    ∃ above name, place = above ++ [name] ∧ tree.entry? above = some .directory ∧
      ∀ after, tree.Grows after → (after.entry? place).isSome →
        after.walk (origin directory route) route.names = .ok place := by
  unfold newPlace at found
  split at found
  · cases found
  rename_i name last
  split at found
  · cases found
  rename_i above walks
  split at found
  · cases found
  rename_i stands
  split at found
  · cases found
  rename_i proper
  split at found
  · cases found
  rename_i short
  cases found
  have directory : tree.entry? above = some .directory := by simpa using stands
  refine ⟨above, name, rfl, directory, fun after grows isSome => ?_⟩
  -- The names before the last lead where they led, and the last one takes the step that was missing.
  have steps : after.step above name = .ok (above ++ [name]) := by
    simp only [Bool.or_eq_true, decide_eq_true_eq, not_or] at proper
    simp [step, grows.directory above directory, proper, short, isSome]
  have names : route.names = route.names.dropLast ++ [name] :=
    (List.dropLast_append_getLast? name last).symm
  rw [names, walk, List.foldlM_append]
  have upTo : route.names.dropLast.foldlM after.step (origin _ route) = .ok above :=
    grows.walk walks
  rw [upTo]
  change [name].foldlM after.step above = _
  rw [List.foldlM_cons, steps]
  rfl

theorem makeDirectory_paved {route part : Route} (begins : part.Begins route)
    (made : tree.makeDirectory directory part = .ok after) : tree.Paved after directory route := by
  unfold makeDirectory at made
  split at made
  · cases made
  rename_i place found
  split at made
  · cases made
  rename_i bare
  cases made
  obtain ⟨above, name, rfl, _, leads⟩ := newPlace_ok found
  have none : tree.entry? (above ++ [name]) = none := by simpa using bare
  have grows : tree.Grows (tree.put (above ++ [name]) .directory) :=
    .put .directory (by simp) (by simp [none])
  refine ⟨grows, fun other => ?_⟩
  rw [entry?_put tree .directory (by simp)]
  split
  next same =>
    subst same
    refine .inr ⟨none, rfl, part.names, begins.names, ?_⟩
    have same : origin directory route = origin directory part := by
      rw [origin, origin, begins.absolute]
    rw [same]
    exact leads _ grows (by simp [entry?_put])
  next => exact .inl rfl

theorem climb_paved (tree : FileTree) (directory : List String) {route : Route}
    (missing higher : List Route)
    (missingBegin : ∀ part ∈ missing, part.Begins route)
    (higherBegin : ∀ part ∈ higher, part.Begins route) :
    tree.Paved (tree.climb directory missing higher).2 directory route ∧
      ∀ parts, (tree.climb directory missing higher).1 = .ok parts →
        ∀ part ∈ parts, part.Begins route := by
  fun_induction climb tree directory missing higher with
  | case1 missing =>
      refine ⟨.refl tree, fun parts found => ?_⟩
      cases found
      exact missingBegin
  | case2 missing part higher made done =>
      refine ⟨makeDirectory_paved (higherBegin part (by simp)) done, fun parts found => ?_⟩
      cases found
      exact missingBegin
  | case3 missing part higher absent ih =>
      exact ih (List.forall_mem_cons.mpr ⟨higherBegin part (by simp), missingBegin⟩)
        fun other listed => higherBegin other (by simp [listed])
  | case4 missing part higher error failed other stands =>
      refine ⟨.refl tree, fun parts found => ?_⟩
      cases found
      exact missingBegin
  | case5 missing part higher error failed other stands =>
      exact ⟨.refl tree, fun parts found => by cases found⟩

theorem descend_paved {route : Route} (lower : List Route)
    (begin : ∀ part ∈ lower, part.Begins route) :
    tree.Paved (tree.descend directory lower).2 directory route := by
  fun_induction descend tree directory lower with
  | case1 tree => exact .refl tree
  | case2 tree part lower made done ih =>
      exact (makeDirectory_paved (begin part (by simp)) done).trans
        (ih fun other listed => begin other (by simp [listed]))
  | case3 tree part lower error failed stands ih =>
      exact ih fun other listed => begin other (by simp [listed])
  | case4 tree part lower error failed stands => exact .refl tree

/-- A directory now stands on the way of a path, where nothing stood. -/
def Laid (tree after : FileTree) (directory : List String) (path : String)
    (place : List String) : Prop :=
  ∃ route, routeOf path = .ok route ∧ after.OnTheWay directory route place ∧
    tree.entry? place = none ∧ after.entry? place = some .directory

theorem Laid.grow {path : String} {place : List String}
    (laid : tree.Laid middle directory path place) (grows : middle.Grows after) :
    tree.Laid after directory path place := by
  obtain ⟨route, routed, ⟨names, part, walks⟩, bare, stands⟩ := laid
  exact ⟨route, routed, ⟨names, part, grows.walk walks⟩, bare, grows.directory place stands⟩

/-- Whether or not all directories could be made, those that have been made are on the way. -/
theorem makeDirectories_laid (tree : FileTree) (directory : List String) (path : String) :
    tree.Grows (tree.makeDirectories directory path).2 ∧
      ∀ place, entry? (tree.makeDirectories directory path).2 place = tree.entry? place ∨
        tree.Laid (tree.makeDirectories directory path).2 directory path place := by
  unfold makeDirectories
  split
  · exact ⟨.refl tree, fun _ => .inl rfl⟩
  split
  · exact ⟨.refl tree, fun _ => .inl rfl⟩
  rename_i route routed
  have laid {made : FileTree} (paved : tree.Paved made directory route) :
      tree.Grows made ∧ ∀ place, made.entry? place = tree.entry? place ∨
        tree.Laid made directory path place := by
    refine ⟨paved.grows, fun place => (paved.laid place).imp_right ?_⟩
    exact fun ⟨bare, stands, way⟩ => ⟨route, routed, way, bare, stands⟩
  obtain ⟨climbed, begins⟩ := climb_paved tree directory []
    (route.upward (route.names.length + 1)) (by simp) fun part listed => Route.upward_begins listed
  split
  next error reached failed =>
    rw [failed] at climbed
    exact laid climbed
  next parts reached done =>
    rw [done] at climbed begins
    exact laid (climbed.trans (descend_paved parts (begins parts rfl)))

theorem read_of_locate {path : String} {route : Route} {place : List String}
    {content : List UInt8} {executable : Bool} (routed : routeOf path = .ok route)
    (located : tree.locate directory route = .ok place)
    (stands : tree.entry? place = some (.file content executable)) :
    tree.read directory path = .ok content := by
  unfold read
  simp only [routed, located, stands]

/-- A file now stands where a path leads, which was no directory. It may be run if the one before it
could. -/
def Filed (tree after : FileTree) (directory : List String) (path : String)
    (content : List UInt8) (place : List String) : Prop :=
  ∃ route, routeOf path = .ok route ∧ after.locate directory route = .ok place ∧
    tree.entry? place ≠ some .directory ∧
      after.entry? place = some (.file content (tree.isExecutable place))

theorem write_filed {path : String} {content : List UInt8}
    (written : tree.write directory path content = .ok after) :
    tree.Grows after ∧ after.read directory path = .ok content ∧
      ∀ place, after.entry? place = tree.entry? place ∨
        tree.Filed after directory path content place := by
  unfold write at written
  split at written
  · cases written
  rename_i route routed
  split at written
  · cases written
  rename_i place found
  split at written
  · cases written
  rename_i proper
  cases written
  obtain ⟨above, name, rfl, _, leads⟩ := newPlace_ok found
  simp only [Bool.or_eq_true, decide_eq_true_eq, not_or, Bool.not_eq_true] at proper
  generalize kept : Entry.file content (tree.isExecutable (above ++ [name])) = entry
  have grows : tree.Grows (tree.put (above ++ [name]) entry) := .put _ (by simp) proper.2
  have stands : entry? (tree.put (above ++ [name]) entry) (above ++ [name]) =
      some (.file content (tree.isExecutable (above ++ [name]))) := by
    simp [entry?_put, kept]
  have located : (tree.put (above ++ [name]) entry).locate directory route =
      .ok (above ++ [name]) := by
    rw [locate, proper.1]
    exact leads _ grows (by simp [stands])
  refine ⟨grows, read_of_locate routed located stands, fun other => ?_⟩
  by_cases same : other = above ++ [name]
  · subst same
    exact .inr ⟨route, routed, located, proper.2, stands⟩
  · rw [entry?_put tree _ (by simp), if_neg same]
    exact .inl rfl

theorem read_of_name {name : String} {content : List UInt8} {executable : Bool}
    (routed : routeOf name = .ok ⟨false, [name], false⟩)
    (directory : name ≠ "." ∧ name ≠ "..") (short : name.utf8ByteSize ≤ longestName)
    (stands : tree.entry? [name] = some (.file content executable)) : tree.read [] name = .ok content := by
  have steps : tree.step [] name = .ok [name] := by
    have root : tree.entry? [] = some .directory := rfl
    simp [step, root, directory, Nat.not_lt.mpr short, stands]
  refine read_of_locate routed ?_ stands
  change [name].foldlM tree.step [] = _
  rw [List.foldlM_cons, steps]
  rfl

end FileTree

end HeapGraph

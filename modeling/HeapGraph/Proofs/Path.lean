import HeapGraph.Host.Route
import Mathlib.Data.List.Basic

/-!
Paths of files in a directory: the path of a name below a directory leads through that directory to
the name, and another extension changes nothing but the end of the name.
-/

namespace HeapGraph

def Route.child (route : Route) (name : String) : Route :=
  ⟨route.absolute, route.names ++ [name], false⟩

namespace Path

theorem pieces_eq_splitOn (chars : List Char) : pieces chars = chars.splitOn '/' := by
  induction chars with
  | nil => rfl
  | cons c rest ih =>
      rw [pieces, List.splitOn, List.splitOnP_cons_eq_if_modifyHead, ← List.splitOn, ← ih]
      by_cases slash : c = '/'
      · simp [slash]
      · cases split : pieces rest with
        | nil => exact absurd (ih.symm.trans split) (List.splitOn_ne_nil '/' rest)
        | cons piece more => simp [slash]

theorem pieces_of_plain {name : List Char} (plain : '/' ∉ name) : pieces name = [name] := by
  rw [pieces_eq_splitOn, List.splitOn_eq_singleton plain]

theorem pieces_append (front name : List Char) :
    pieces (front ++ '/' :: name) = pieces front ++ pieces name := by
  simp only [pieces_eq_splitOn, List.splitOn]
  exact List.splitOnP_append_cons front name (by simp)

theorem intercalate_pieces (chars : List Char) : ['/'].intercalate (pieces chars) = chars := by
  rw [pieces_eq_splitOn, List.intercalate_splitOn]

theorem lastName?_of_pieces {chars name : List Char} {before : List (List Char)}
    (split : pieces chars = before ++ [name]) (solid : isIdle name = false)
    (named : name ≠ ['.', '.']) : lastName? chars = some (chars, name) := by
  have idle : (pieces chars).reverse.takeWhile isIdle = [] := by
    rw [split, List.reverse_append, List.reverse_singleton, List.singleton_append,
      List.takeWhile_cons_of_neg (by simp [solid])]
  unfold lastName?
  simp only [idle, List.length_nil, List.drop_zero]
  rw [split, List.reverse_append, List.reverse_singleton, List.singleton_append]
  simp only [if_neg named, List.reverse_reverse]
  rw [← split, intercalate_pieces]

theorem splitExtension_of {stem extension : List Char} (whole : stem ≠ [])
    (plain : '.' ∉ extension) :
    splitExtension (stem ++ '.' :: extension) = (stem, some extension) := by
  have behind : (stem ++ '.' :: extension).reverse.takeWhile (· != '.') = extension.reverse := by
    rw [List.reverse_append, List.reverse_cons, List.append_assoc,
      List.takeWhile_append_of_pos fun c inside => ?_]
    · simp
    · simpa using ne_of_mem_of_not_mem (List.mem_reverse.mp inside) plain
  have front : (stem ++ '.' :: extension).take
      ((stem ++ '.' :: extension).length - extension.length - 1) = stem := by
    rw [List.take_left']
    simp
    omega
  unfold splitExtension
  simp only [behind, List.length_reverse, front, List.reverse_reverse]
  rw [if_pos]
  simp [whole]
  omega

theorem dropSuffix_append (front part : List Char) : dropSuffix part (front ++ part) = front := by
  rw [dropSuffix, List.length_append, Nat.add_sub_cancel, List.take_left]

def lead (directory : String) : List Char :=
  if directory.isEmpty || directory.toList.getLast? = some '/' then directory.toList
  else directory.toList ++ ['/']

theorem isAbsolute_of_plain {name : String} (plain : '/' ∉ name.toList) :
    isAbsolute name = false := by
  unfold isAbsolute
  rw [decide_eq_false_iff_not]
  exact fun first => plain (List.mem_of_mem_head? first)

theorem toList_join (directory : String) {path : String} (relative : isAbsolute path = false) :
    (join directory path).toList = lead directory ++ path.toList := by
  unfold join lead
  rw [relative, if_neg (by simp)]
  split
  · rw [String.toList_append]
  · rw [String.toList_append, String.toList_append]
    rfl

/-- A name below a directory is the last piece of its path, behind the names of the directory. -/
theorem pieces_lead (directory : String) : ∃ before : List (List Char),
    before.filter (· != []) = (pieces directory.toList).filter (· != []) ∧
      ∀ name : List Char, '/' ∉ name → pieces (lead directory ++ name) = before ++ [name] := by
  unfold lead
  split
  · rename_i closed
    rw [Bool.or_eq_true, decide_eq_true_eq] at closed
    rcases closed with empty | last
    · rw [String.isEmpty_iff] at empty
      subst empty
      exact ⟨[], by simp [pieces], fun name plain => pieces_of_plain plain⟩
    · obtain ⟨front, shape⟩ := List.getLast?_eq_some_iff.mp last
      rw [shape]
      refine ⟨pieces front, by simp [pieces_append, pieces], fun name plain => ?_⟩
      rw [List.append_assoc, List.singleton_append, pieces_append, pieces_of_plain plain]
  · refine ⟨pieces directory.toList, rfl, fun name plain => ?_⟩
    rw [List.append_assoc, List.singleton_append, pieces_append, pieces_of_plain plain]

theorem isAbsolute_join (directory : String) {name : String} (plain : '/' ∉ name.toList) :
    isAbsolute (join directory name) = isAbsolute directory := by
  have relative := isAbsolute_of_plain plain
  unfold isAbsolute at relative ⊢
  rw [toList_join directory (isAbsolute_of_plain plain), lead]
  cases shape : directory.toList with
  | nil => simpa [String.toList_eq_nil_iff.mp shape] using relative
  | cons first rest => split <;> rfl

theorem ofPath_join (directory : String) {name : String} (plain : '/' ∉ name.toList)
    (given : name ≠ "") :
    Route.ofPath (join directory name) = (Route.ofPath directory).child name := by
  obtain ⟨before, names, split⟩ := pieces_lead directory
  have bare : name.toList ≠ [] := fun empty => given (String.toList_eq_nil_iff.mp empty)
  unfold Route.ofPath Route.child
  simp only [isAbsolute_join directory plain, toList_join directory (isAbsolute_of_plain plain),
    split name.toList plain, List.filter_append, names]
  simp [bare]

theorem join_join (directory : String) {front name : String} (frontPlain : '/' ∉ front.toList)
    (given : front ≠ "") (plain : '/' ∉ name.toList) :
    join (join directory front) name = join directory (front ++ "/" ++ name) := by
  obtain ⟨first, rest, shape⟩ :=
    List.exists_cons_of_ne_nil fun empty => given (String.toList_eq_nil_iff.mp empty)
  have relative : isAbsolute (front ++ "/" ++ name) = false := by
    have frontRelative := isAbsolute_of_plain frontPlain
    unfold isAbsolute at frontRelative ⊢
    simpa [shape] using frontRelative
  have below := toList_join directory (isAbsolute_of_plain frontPlain)
  have ended : lead (join directory front) = (join directory front).toList ++ ['/'] := by
    unfold lead
    rw [if_neg]
    rw [Bool.or_eq_true, decide_eq_true_eq, String.isEmpty_iff, ← String.toList_eq_nil_iff, below,
      List.append_eq_nil_iff, List.getLast?_append]
    rintro (⟨_, none⟩ | last)
    · exact given (String.toList_eq_nil_iff.mp none)
    · rw [shape] at last frontPlain
      exact frontPlain (List.mem_of_getLast? (by simpa using last))
  apply String.toList_injective
  rw [toList_join _ (isAbsolute_of_plain plain), ended, below, toList_join _ relative]
  simp

section Extensions

variable {front stem old : List Char} {before : List (List Char)}

theorem lastName?_of_extended
    (split : pieces (front ++ (stem ++ '.' :: old)) = before ++ [stem ++ '.' :: old])
    (whole : stem ≠ []) (proper : stem ≠ ['.']) :
    lastName? (front ++ (stem ++ '.' :: old)) =
      some (front ++ (stem ++ '.' :: old), stem ++ '.' :: old) := by
  obtain ⟨c, rest, rfl⟩ := List.exists_cons_of_ne_nil whole
  have solid : isIdle ((c :: rest) ++ '.' :: old) = false := by simp [isIdle]
  have named : (c :: rest) ++ '.' :: old ≠ ['.', '.'] := by
    intro parent
    obtain ⟨rfl, dot⟩ := List.cons_eq_cons.mp parent
    obtain ⟨rfl, _⟩ | ⟨_, none⟩ := List.append_eq_singleton_iff.mp dot
    · exact proper rfl
    · cases none
  exact lastName?_of_pieces split solid named

theorem setExtension_of {new : List Char}
    (split : pieces (front ++ (stem ++ '.' :: old)) = before ++ [stem ++ '.' :: old])
    (whole : stem ≠ []) (proper : stem ≠ ['.']) (plain : '.' ∉ old) (given : new ≠ []) :
    setExtension (front ++ (stem ++ '.' :: old)) new = front ++ (stem ++ '.' :: new) := by
  rw [setExtension, lastName?_of_extended split whole proper]
  simp only [splitExtension_of whole plain, dropSuffix_append, if_neg given, List.append_assoc]

theorem cutExtension_of
    (split : pieces (front ++ (stem ++ '.' :: old)) = before ++ [stem ++ '.' :: old])
    (whole : stem ≠ []) (proper : stem ≠ ['.']) (plain : '.' ∉ old) :
    cutExtension (front ++ (stem ++ '.' :: old)) = front ++ (stem ++ ['.']) := by
  have cut : front ++ (stem ++ '.' :: old) = front ++ (stem ++ ['.']) ++ old := by simp
  rw [cutExtension, lastName?_of_extended split whole proper]
  simp only [splitExtension_of whole plain, Option.getD_some]
  rw [cut, dropSuffix_append]

end Extensions

/-- Another extension leaves the directory and the rest of the name as they are. -/
theorem withExtension_join (directory : String) {stem old new : String}
    (plain : '/' ∉ stem.toList) (whole : stem ≠ "") (proper : stem ≠ ".")
    (oldPlain : '/' ∉ old.toList) (oldLast : '.' ∉ old.toList) (newPlain : '/' ∉ new.toList)
    (given : new ≠ "") :
    withExtension (join directory (stem ++ "." ++ old)) new =
      .ok (join directory (stem ++ "." ++ new)) := by
  have below (extension : String) (slashless : '/' ∉ extension.toList) :
      (join directory (stem ++ "." ++ extension)).toList =
        lead directory ++ (stem.toList ++ '.' :: extension.toList) := by
    rw [toList_join directory (isAbsolute_of_plain (by simp [plain, slashless]))]
    simp
  have named : stem.toList ≠ [] := fun empty => whole (String.toList_eq_nil_iff.mp empty)
  have solid : stem.toList ≠ ['.'] := fun dot => proper (String.toList_injective dot)
  have extension : new.toList ≠ [] := fun empty => given (String.toList_eq_nil_iff.mp empty)
  obtain ⟨before, _, split⟩ := pieces_lead directory
  -- What is cut leaves a name that ends in a dot, and that name is what the new extension goes to.
  rw [withExtension, if_neg (by simpa using newPlain), Except.ok.injEq]
  apply String.toList_injective
  rw [String.toList_ofList, below old oldPlain, below new newPlain,
    cutExtension_of (split _ (by simp [plain, oldPlain])) named solid oldLast,
    setExtension_of (split _ (by simp [plain])) named solid (by simp) extension]

end Path

end HeapGraph

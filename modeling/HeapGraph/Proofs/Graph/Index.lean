import HeapGraph.Graph.Link

/-!
What the two changes to an index do to its buckets. An index without empty buckets is determined by
what it files under each object.
-/

namespace HeapGraph.Index

theorem bucket_empty (node : Nat) : (∅ : Index).bucket node = ∅ := by
  simp [bucket]

theorem bucket_file (index : Index) (node edge other : Nat) :
    (index.file node edge).bucket other =
      if node = other then (index.bucket node).insert edge else index.bucket other := by
  unfold bucket file
  by_cases same : node = other
  · subst other
    simp
  · simp [Std.ExtTreeMap.getElem?_alter, same]

theorem getElem?_unfile (index : Index) (node edge other : Nat) :
    (index.unfile node edge)[other]? =
      if node = other then (index[node]?.map fun bucket => bucket.erase edge).filter (!·.isEmpty)
      else index[other]? := by
  unfold unfile
  by_cases same : node = other
  · subst other
    rw [Std.ExtTreeMap.getElem?_alter_self, if_pos rfl]
    cases index[node]? with
    | none => rfl
    | some bucket =>
        change (if (bucket.erase edge).isEmpty then none else some (bucket.erase edge)) =
          (some (bucket.erase edge)).filter (!·.isEmpty)
        cases last : (bucket.erase edge).isEmpty <;> simp [Option.filter, last]
  · simp [Std.ExtTreeMap.getElem?_alter, same]

theorem bucket_unfile (index : Index) (node edge other : Nat) :
    (index.unfile node edge).bucket other =
      if node = other then (index.bucket node).erase edge else index.bucket other := by
  unfold bucket
  rw [getElem?_unfile]
  by_cases same : node = other
  · rw [if_pos same, if_pos same]
    cases index[node]? with
    | none => simp
    | some bucket =>
        cases last : (bucket.erase edge).isEmpty with
        | true => simpa [Option.filter, last] using (Std.ExtTreeSet.isEmpty_iff.mp last).symm
        | false => simp [Option.filter, last]
  · rw [if_neg same, if_neg same]

theorem getElem?_eq_none_of_bucket {index : Index} {node : Nat}
    (tidy : index[node]? ≠ some ∅) (bare : index.bucket node = ∅) : index[node]? = none := by
  cases found : index[node]? with
  | none => rfl
  | some bucket =>
      have same : bucket = ∅ := by simpa [Index.bucket, found] using bare
      exact absurd (by rw [found, same]) tidy

def Tidy (index : Index) : Prop :=
  ∀ node : Nat, index[node]? ≠ some ∅

theorem tidy_empty : Tidy ∅ := by
  intro node
  simp

theorem Tidy.file {index : Index} (tidy : index.Tidy) (node edge : Nat) :
    (index.file node edge).Tidy := by
  intro other
  unfold Index.file
  by_cases same : node = other
  · subst other
    simp
  · simpa [Std.ExtTreeMap.getElem?_alter, same] using tidy other

theorem Tidy.unfile {index : Index} (tidy : index.Tidy) (node edge : Nat) :
    (index.unfile node edge).Tidy := by
  intro other
  rw [getElem?_unfile]
  split
  · intro found
    have kept := (Option.filter_eq_some_iff.mp found).2
    simp at kept
  · exact tidy other

theorem Tidy.getElem?_eq {index : Index} (tidy : index.Tidy) (node : Nat) :
    index[node]? = if index.bucket node = ∅ then none else some (index.bucket node) := by
  by_cases bare : index.bucket node = ∅
  · rw [if_pos bare]
    exact getElem?_eq_none_of_bucket (tidy node) bare
  · rw [if_neg bare]
    cases found : index[node]? with
    | none => exact absurd (by simp [bucket, found]) bare
    | some bucket => simp [Index.bucket, found]

theorem Tidy.exists_mem {index : Index} (tidy : index.Tidy) {node : Nat} (member : node ∈ index) :
    ∃ edge, edge ∈ index.bucket node := by
  apply Classical.byContradiction
  intro none
  have bare : index.bucket node = ∅ := Std.ExtTreeSet.eq_empty_iff_forall_not_mem.mpr
    fun edge filed => none ⟨edge, filed⟩
  rw [Std.ExtTreeMap.mem_iff_isSome_getElem?, tidy.getElem?_eq, if_pos bare] at member
  cases member

theorem Tidy.ext {left right : Index} (leftTidy : left.Tidy) (rightTidy : right.Tidy)
    (same : ∀ node, left.bucket node = right.bucket node) : left = right := by
  apply Std.ExtTreeMap.ext_getElem?
  intro node
  rw [leftTidy.getElem?_eq, rightTidy.getElem?_eq, same]

theorem Tidy.erase_of_bucket {index : Index} (tidy : index.Tidy) {node : Nat}
    (bare : index.bucket node = ∅) : index.erase node = index := by
  apply Std.ExtTreeMap.ext_getElem?
  intro other
  by_cases same : node = other
  · subst other
    simp [getElem?_eq_none_of_bucket (tidy node) bare]
  · simp [Std.ExtTreeMap.getElem?_erase, same]

theorem unfile_erase (index : Index) (node edge owner : Nat) :
    Index.unfile (index.erase node) owner edge = (index.unfile owner edge).erase node := by
  apply Std.ExtTreeMap.ext_getElem?
  intro other
  rw [getElem?_unfile, Std.ExtTreeMap.getElem?_erase, Std.ExtTreeMap.getElem?_erase,
    Std.ExtTreeMap.getElem?_erase, getElem?_unfile]
  by_cases taken : node = other
  · subst other
    by_cases owned : owner = node
    · subst owner
      simp
    · simp [owned]
  · by_cases owned : owner = other
    · subst other
      simp [taken]
    · simp [taken, owned]

end HeapGraph.Index

import Mathlib.Data.List.Forall2

/-!
Loops over a list that the first error ends.
-/

namespace HeapGraph

section Folds

variable {α σ ε : Type} {step : σ → α → Except ε σ}

theorem foldlM_cons_ok {item : α} {items : List α} {start final : σ}
    (ran : (item :: items).foldlM step start = .ok final) :
    ∃ next, step start item = .ok next ∧ items.foldlM step next = .ok final := by
  rw [List.foldlM_cons] at ran
  cases first : step start item with
  | error error => rw [first] at ran; cases ran
  | ok next => exact ⟨next, rfl, by rw [first] at ran; exact ran⟩

theorem foldlM_append_ok {first second : List α} {start final : σ}
    (ran : (first ++ second).foldlM step start = .ok final) :
    ∃ middle, first.foldlM step start = .ok middle ∧ second.foldlM step middle = .ok final := by
  rw [List.foldlM_append] at ran
  cases reached : first.foldlM step start with
  | error error => rw [reached] at ran; cases ran
  | ok middle => exact ⟨middle, rfl, by rw [reached] at ran; exact ran⟩

theorem foldlM_eq_error_iff {items : List α} {start : σ} {error : ε} :
    items.foldlM step start = .error error ↔ ∃ before item after state,
      items = before ++ item :: after ∧ before.foldlM step start = .ok state ∧
        step state item = .error error := by
  constructor
  · intro failed
    induction items generalizing start with
    | nil => cases failed
    | cons item items ih =>
        rw [List.foldlM_cons] at failed
        cases first : step start item with
        | error other =>
            rw [first] at failed
            cases failed
            exact ⟨[], item, items, start, rfl, rfl, first⟩
        | ok next =>
            rw [first] at failed
            obtain ⟨before, found, after, state, rfl, reached, fails⟩ := ih failed
            exact ⟨item :: before, found, after, state, rfl,
              by rw [List.foldlM_cons, first]; exact reached, fails⟩
  · rintro ⟨before, item, after, state, rfl, reached, fails⟩
    rw [List.foldlM_append, reached]
    change (item :: after).foldlM step state = .error error
    rw [List.foldlM_cons, fails]
    rfl

end Folds

section Maps

variable {α β ε : Type} {f : α → Except ε β} {items : List α}

theorem mapM_ok_forall₂ {results : List β} (done : items.mapM f = .ok results) :
    List.Forall₂ (fun item result => f item = .ok result) items results := by
  induction items generalizing results with
  | nil =>
      cases done
      exact List.Forall₂.nil
  | cons item items ih =>
      rw [List.mapM_cons] at done
      cases first : f item with
      | error error =>
          rw [first] at done
          cases done
      | ok result =>
          cases rest : items.mapM f with
          | error error =>
              rw [first, rest] at done
              cases done
          | ok more =>
              rw [first, rest] at done
              cases done
              exact List.Forall₂.cons first (ih rest)

theorem mapM_ok_of_mem {results : List β} (done : items.mapM f = .ok results) {item : α}
    (member : item ∈ items) : ∃ result, f item = .ok result := by
  have each := mapM_ok_forall₂ done
  clear done
  induction each with
  | nil => cases member
  | cons first _ ih =>
      rcases List.mem_cons.mp member with rfl | later
      · exact ⟨_, first⟩
      · exact ih later

theorem mapM_error_first {error : ε} (failed : items.mapM f = .error error) :
    ∃ before item after, items = before ++ item :: after ∧
      (∀ earlier ∈ before, ∃ result, f earlier = .ok result) ∧ f item = .error error := by
  induction items with
  | nil => cases failed
  | cons item items ih =>
      rw [List.mapM_cons] at failed
      cases first : f item with
      | error other =>
          rw [first] at failed
          cases failed
          exact ⟨[], item, items, rfl, by simp, first⟩
      | ok result =>
          cases rest : items.mapM f with
          | ok more =>
              rw [first, rest] at failed
              cases failed
          | error other =>
              rw [first, rest] at failed
              cases failed
              obtain ⟨before, found, after, rfl, fine, fails⟩ := ih rest
              exact ⟨item :: before, found, after, rfl,
                List.forall_mem_cons.mpr ⟨⟨result, first⟩, fine⟩, fails⟩

end Maps

end HeapGraph

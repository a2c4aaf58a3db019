import Mathlib.Algebra.Ring.Nat

namespace Contention

variable {α : Type} {row : List α} {index : Nat} {old : α}

theorem set_split (found : row[index]? = some old) (new : α) :
    ∃ before rest, row = before ++ old :: rest ∧ row.set index new = before ++ new :: rest := by
  obtain ⟨inside, rfl⟩ := List.getElem?_eq_some_iff.mp found
  obtain ⟨before, rest, split, _, changed⟩ : ∃ before rest, row = before ++ row[index] :: rest ∧
      before.length = index ∧ row.set index new = before ++ new :: rest :=
    List.exists_of_set inside
  exact ⟨before, rest, split, changed⟩

theorem countP_set_add (holds : α → Bool) (found : row[index]? = some old) (new : α) :
    (row.set index new).countP holds + (if holds old then 1 else 0) =
      row.countP holds + (if holds new then 1 else 0) := by
  obtain ⟨before, rest, split, changed⟩ := set_split found new
  rw [changed, split]
  simp only [List.countP_append, List.countP_cons]
  omega

theorem sum_set_add (measure : α → Nat) (found : row[index]? = some old) (new : α) :
    ((row.set index new).map measure).sum + measure old =
      (row.map measure).sum + measure new := by
  obtain ⟨before, rest, split, changed⟩ := set_split found new
  rw [changed, split]
  simp only [List.map_append, List.map_cons, List.sum_append, List.sum_cons]
  omega

end Contention

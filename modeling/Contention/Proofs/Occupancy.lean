import Contention.Occupancy
import Mathlib.Logic.Function.Basic

namespace Contention

/-- What a section has claimed after so many of its steps. -/
def Occupancy.claimed (pair : Resource × Resource) : Nat → List Resource
  | 2 => [pair.1]
  | 3 => [pair.1, pair.2]
  | 4 => [pair.1, pair.2]
  | 5 => [pair.1]
  | _ => []

/-- A cell has the tag of a worker iff that worker has claimed its resource. -/
def Reflects (cells : List Nat) (claims : Worker → List Resource) : Prop :=
  ∀ worker resource, resource ∈ claims worker ↔ cells[resource.index]? = some (worker.index + 1)

variable {cells : List Nat} {claims : Worker → List Resource} {worker : Worker}
  {resource : Resource} {pair : Resource × Resource} {occupancy : Occupancy} {maxHold : Span}

theorem Reflects.free_cell (reflects : Reflects cells claims)
    (inside : resource.index < cells.length)
    (unclaimed : ∀ other, resource ∉ claims other) : cells[resource.index]? = some 0 := by
  obtain ⟨mark, found⟩ : ∃ mark, cells[resource.index]? = some mark :=
    ⟨_, List.getElem?_eq_getElem inside⟩
  cases mark with
  | zero => exact found
  | succ index => exact absurd ((reflects ⟨index⟩ resource).mpr found) (unclaimed ⟨index⟩)

theorem Reflects.set {mark : Nat} {kept : List Resource} (reflects : Reflects cells claims)
    (inside : resource.index < cells.length)
    (own : resource ∈ kept ↔ mark = worker.index + 1)
    (others : ∀ other, other ≠ worker → resource ∉ claims other ∧ mark ≠ other.index + 1)
    (same : ∀ wanted, wanted ≠ resource → (wanted ∈ kept ↔ wanted ∈ claims worker)) :
    Reflects (cells.set resource.index mark) (Function.update claims worker kept) := by
  intro other wanted
  by_cases here : wanted = resource
  · subst here
    rw [List.getElem?_set_self inside, Option.some_inj]
    by_cases mine : other = worker
    · subst mine
      rw [Function.update_self, own]
    · rw [Function.update_of_ne mine]
      obtain ⟨unclaimed, foreign⟩ := others other mine
      exact ⟨fun claimed => absurd claimed unclaimed, fun marked => absurd marked foreign⟩
  · have apart : resource.index ≠ wanted.index := fun equal =>
      here (congrArg Resource.mk equal.symm)
    rw [List.getElem?_set_ne apart, ← reflects other wanted]
    by_cases mine : other = worker
    · subst mine
      rw [Function.update_self, same wanted here]
    · rw [Function.update_of_ne mine]

theorem Reflects.occupy (reflects : Reflects cells claims) (worker : Worker)
    (inside : resource.index < cells.length)
    (unclaimed : ∀ other, resource ∉ claims other) :
    Reflects (cells.set resource.index (worker.index + 1))
      (Function.update claims worker (claims worker ++ [resource])) := by
  refine reflects.set inside (by simp) (fun other apart => ⟨unclaimed other, fun same => ?_⟩) ?_
  · exact apart (congrArg Worker.mk (Nat.succ.inj same)).symm
  · intro wanted different
    simp [different]

theorem Reflects.vacate (reflects : Reflects cells claims) (kept : List Resource)
    (claimed : claims worker = kept ++ [resource]) (once : resource ∉ kept) :
    cells[resource.index]? = some (worker.index + 1) ∧
      Reflects (cells.set resource.index 0) (Function.update claims worker kept) := by
  have marked := (reflects worker resource).mp (by rw [claimed]; simp)
  obtain ⟨inside, _⟩ := List.getElem?_eq_some_iff.mp marked
  refine ⟨marked, reflects.set inside (by simp [once])
    (fun other apart => ⟨fun again => ?_, ?_⟩) ?_⟩
  · have same := (reflects other resource).mp again
    rw [marked, Option.some_inj] at same
    exact apart (congrArg Worker.mk (Nat.succ.inj same)).symm
  · exact Nat.zero_ne_add_one _
  · intro wanted different
    simp [claimed, different]

namespace Occupancy

theorem tag_eq (fits : worker.index < wordMax) : tag worker = .ok (worker.index + 1) :=
  if_pos fits

theorem exchange_eq {expected next : Nat}
    (found : occupancy.cells[resource.index]? = some expected) :
    occupancy.exchange resource expected next =
      .ok { occupancy with cells := occupancy.cells.set resource.index next } := by
  simp only [exchange, found, if_true]

theorem occupy_eq (fits : worker.index < wordMax)
    (found : occupancy.cells[resource.index]? = some 0) :
    occupancy.occupy resource worker =
      .ok { occupancy with cells := occupancy.cells.set resource.index (worker.index + 1) } := by
  rw [occupy, tag_eq fits]
  exact exchange_eq found

theorem free_eq (fits : worker.index < wordMax)
    (found : occupancy.cells[resource.index]? = some (worker.index + 1)) :
    occupancy.free resource worker =
      .ok { occupancy with cells := occupancy.cells.set resource.index 0 } := by
  rw [free, tag_eq fits]
  exact exchange_eq found

theorem change_eq {act : Occupancy → Except Fault Occupancy} {next : Occupancy}
    (generator : Random.Generator) (acted : act occupancy = .ok next) :
    change act occupancy generator = { shared := next, generator } := by
  simp only [change, acted]

theorem mem_of_claimed {done : Nat} (member : resource ∈ claimed pair done) :
    resource ∈ [pair.1, pair.2] := by
  unfold claimed at member
  split at member <;> simp_all

structure Checked (before : Occupancy) (claims : Worker → List Resource) (worker : Worker)
    (pair : Resource × Resource) (done : Nat) (outcome : Section.Outcome Occupancy) : Prop where
  clean : outcome.fault = none
  silent : outcome.request = none
  size : outcome.shared.cells.length = before.cells.length
  violations : outcome.shared.violations = before.violations
  entries : outcome.shared.entries = before.entries + if done = 0 then 1 else 0
  reflects : Reflects outcome.shared.cells
    (Function.update claims worker (claimed pair (done + 1)))

/-- A step of a section finds no cell otherwise than it expects it, if nobody else has claimed
what it claims. -/
theorem checked {act : Section.Step Occupancy} {done : Nat} (generator : Random.Generator)
    (scripted : ((criticalSection maxHold).script worker pair)[done]? = some act)
    (reflects : Reflects occupancy.cells claims) (own : claims worker = claimed pair done)
    (fits : worker.index < wordMax) (different : pair.1 ≠ pair.2)
    (first : pair.1.index < occupancy.cells.length) (second : pair.2.index < occupancy.cells.length)
    (alone : ∀ other, other ≠ worker → ∀ wanted ∈ claimed pair (done + 1),
      wanted ∉ claimed pair done → wanted ∉ claims other) :
    Checked occupancy claims worker pair done (act occupancy generator) := by
  have kept : ∀ {claimed}, claims worker = claimed →
      Reflects occupancy.cells (Function.update claims worker claimed) := by
    rintro _ rfl
    rwa [Function.update_eq_self]
  match done, scripted with
  | 0, scripted =>
      cases scripted
      exact ⟨rfl, rfl, rfl, rfl, rfl, kept own⟩
  | 1, scripted =>
      cases scripted
      have unclaimed : ∀ other, pair.1 ∉ claims other := by
        intro other
        by_cases mine : other = worker
        · rw [mine, own]
          exact List.not_mem_nil
        · exact alone other mine pair.1 List.mem_cons_self List.not_mem_nil
      rw [change_eq generator (occupy_eq fits (reflects.free_cell first unclaimed))]
      refine ⟨rfl, rfl, List.length_set, rfl, rfl, ?_⟩
      have after := reflects.occupy worker first unclaimed
      rwa [own] at after
  | 2, scripted =>
      cases scripted
      have onlyFirst : pair.2 ∉ claimed pair 2 := by simpa [claimed] using different.symm
      have unclaimed : ∀ other, pair.2 ∉ claims other := by
        intro other
        by_cases mine : other = worker
        · rwa [mine, own]
        · exact alone other mine pair.2 (List.mem_cons_of_mem _ List.mem_cons_self) onlyFirst
      rw [change_eq generator (occupy_eq fits (reflects.free_cell second unclaimed))]
      refine ⟨rfl, rfl, List.length_set, rfl, rfl, ?_⟩
      have after := reflects.occupy worker second unclaimed
      rwa [own] at after
  | 3, scripted =>
      cases scripted
      exact ⟨rfl, rfl, rfl, rfl, rfl, kept own⟩
  | 4, scripted =>
      cases scripted
      obtain ⟨marked, after⟩ := reflects.vacate [pair.1] own (by simpa using different.symm)
      rw [change_eq generator (free_eq fits marked)]
      exact ⟨rfl, rfl, List.length_set, rfl, rfl, after⟩
  | 5, scripted =>
      cases scripted
      obtain ⟨marked, after⟩ := reflects.vacate [] own List.not_mem_nil
      rw [change_eq generator (free_eq fits marked)]
      exact ⟨rfl, rfl, List.length_set, rfl, rfl, after⟩

end Occupancy

end Contention

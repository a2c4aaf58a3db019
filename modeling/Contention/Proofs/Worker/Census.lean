import Contention.Worker.Loop
import Mathlib.Algebra.BigOperators.Group.Finset.Piecewise

namespace Contention

theorem sum_with_one_changed {bound index : Nat} {before after : Nat → Nat} (inside : index < bound)
    (same : ∀ other, other ≠ index → after other = before other) :
    ∑ place ∈ Finset.range bound, after place + before index =
      ∑ place ∈ Finset.range bound, before place + after index := by
  have member := Finset.mem_range.mpr inside
  have rest : ∑ place ∈ (Finset.range bound).erase index, after place =
      ∑ place ∈ (Finset.range bound).erase index, before place :=
    Finset.sum_congr rfl fun place among => same place (Finset.ne_of_mem_erase among)
  rw [← Finset.add_sum_erase _ after member, ← Finset.add_sum_erase _ before member, rest]
  omega

namespace System

variable {σ : Type} {system next : System σ} {worker : Worker} {thread moved : Thread}
  {workers : Nat}

def isAt (kind : Stage → Bool) (system : System σ) (worker : Worker) : Bool :=
  (system.thread? worker).any fun thread => kind thread.stage

def census (kind : Stage → Bool) (system : System σ) (workers : Nat) : Nat :=
  ((Finset.range workers).filter fun index => system.isAt kind ⟨index⟩ = true).card

def vote (kind : Stage → Bool) (system : System σ) (index : Nat) : Nat :=
  if system.isAt kind ⟨index⟩ = true then 1 else 0

theorem census_eq_sum (kind : Stage → Bool) (system : System σ) (workers : Nat) :
    system.census kind workers = ∑ index ∈ Finset.range workers, system.vote kind index :=
  Finset.card_filter _ _

theorem isAt_eq (kind : Stage → Bool) (found : system.thread? worker = some thread) :
    system.isAt kind worker = kind thread.stage := by
  rw [isAt, found, Option.any_some]

theorem vote_eq (kind : Stage → Bool) (found : system.thread? worker = some thread) :
    system.vote kind worker.index = if kind thread.stage = true then 1 else 0 := by
  rw [vote, isAt_eq kind found]

theorem census_turned (kind : Stage → Bool) (member : worker.index < workers)
    (found : system.thread? worker = some thread) (landed : next.thread? worker = some moved)
    (others : ∀ other, other ≠ worker → next.thread? other = system.thread? other) :
    next.census kind workers + (if kind thread.stage = true then 1 else 0) =
      system.census kind workers + if kind moved.stage = true then 1 else 0 := by
  rw [census_eq_sum, census_eq_sum, ← vote_eq kind found, ← vote_eq kind landed]
  refine sum_with_one_changed member fun other apart => ?_
  have different : (⟨other⟩ : Worker) ≠ worker := fun same => apart (congrArg Worker.index same)
  rw [vote, vote, isAt, isAt, others ⟨other⟩ different]

theorem census_eq_zero {kind : Stage → Bool}
    (none : ∀ worker, worker.index < workers → system.isAt kind worker = false) :
    system.census kind workers = 0 := by
  rw [census, Finset.card_eq_zero, Finset.filter_eq_empty_iff]
  intro index member
  rw [none ⟨index⟩ (Finset.mem_range.mp member)]
  exact Bool.false_ne_true

end System

end Contention

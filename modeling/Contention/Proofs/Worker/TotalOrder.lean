import Contention.Proofs.WaitGraph.Search
import Contention.Proofs.Worker.Waiting

namespace Contention.System

/-! Under total order whoever is blocked holds lower resources only, so that along a
chain of waits the awaited resources rise.  There are only so many of them: no
chain closes, and each ends at a worker that can go on. -/

variable {σ : Type} {regime : Regime σ} {resources workers : Nat} {system : System σ}
  {worker : Worker} {place : Site} {guard : Guard} {now : Instant}

theorem Coherent.held_lower (coherent : system.Coherent regime resources workers)
    (ordered : regime.mode = .totalOrder)
    (locking : system.shop.activity worker = .locking place)
    (own : guard ∈ system.shop.guardsOf worker) :
    guard.site.resource.index < place.resource.index := by
  have onBoard := Workshop.onBoard_of_activity locking (by simp)
  obtain ⟨thread, pair, placed⟩ := coherent.placed worker (coherent.onBoard_iff.mp onBoard)
  obtain ⟨turn, _, rfl, sites⟩ := placed.blocked locking
  have held : guard.site ∈ ((Stage.take turn).owned pair).map site :=
    sites ▸ List.mem_map_of_mem own
  cases turn with
  | first => contradiction
  | second =>
      rw [List.mem_singleton.mp held]
      exact placed.routed.ordered ordered

theorem Coherent.wanted_lt (coherent : system.Coherent regime resources workers)
    (locking : system.shop.activity worker = .locking place) :
    place.resource.index < resources :=
  ((Workshop.contains_iff_of_room coherent.room).mp
    (coherent.orderly.inside worker place locking)).2

/-- No row of workers in which each waits for another of the row. -/
theorem Coherent.no_closed_row (coherent : system.Coherent regime resources workers)
    (ordered : regime.mode = .totalOrder) {row : List Worker}
    (closed : ∀ worker ∈ row, ∃ other ∈ row, (system.shop.graph now).blocker worker = some other)
    (gap : Nat) {worker : Worker} (member : worker ∈ row)
    (locking : system.shop.activity worker = .locking place)
    (near : resources ≤ place.resource.index + gap) : False := by
  -- The next of the row wants something higher, so the gap to the last resource shrinks.
  induction gap generalizing worker place with
  | zero => exact absurd (coherent.wanted_lt locking) (Nat.not_lt_of_le near)
  | succ gap ih =>
      obtain ⟨other, otherMember, waits⟩ := closed worker member
      obtain ⟨onward, onwardMember, otherWaits⟩ := closed other otherMember
      obtain ⟨same, again, guard, own, held⟩ := coherent.blocked_of_blocker waits
      obtain ⟨next, otherLocking, _⟩ := coherent.blocked_of_blocker otherWaits
      cases locking.symm.trans again
      have higher := coherent.held_lower ordered otherLocking own
      rw [held] at higher
      exact ih otherMember otherLocking (by omega)

theorem Coherent.no_cycles (coherent : system.Coherent regime resources workers)
    (ordered : regime.mode = .totalOrder) (now : Instant) :
    (system.shop.graph now).cycles = [] := by
  refine List.eq_nil_iff_forall_not_mem.mpr fun cycle listed => ?_
  have isCycle := WaitGraph.mem_cycles_iff.mp listed
  have closed : ∀ worker ∈ cycle, ∃ other ∈ cycle,
      (system.shop.graph now).blocker worker = some other :=
    fun worker member => isCycle.blocker_mem member
  obtain ⟨worker, member⟩ := List.exists_mem_of_ne_nil cycle isCycle.nonempty
  obtain ⟨other, _, waits⟩ := closed worker member
  obtain ⟨place, locking, _⟩ := coherent.blocked_of_blocker waits
  exact coherent.no_closed_row ordered closed resources member locking (Nat.le_add_left _ _)

theorem Coherent.someone_moves (coherent : system.Coherent regime resources workers)
    (ordered : regime.mode = .totalOrder) (returns : regime.Returns) (gap : Nat) {worker : Worker}
    (member : worker.index < workers) (unexited : ¬ system.Exited worker)
    (near : ∀ place, system.shop.activity worker = .locking place →
      resources ≤ place.resource.index + gap) :
    ∃ mover, mover.index < workers ∧ ¬ system.Exited mover ∧
      system.canMove regime mover = true := by
  induction gap generalizing worker with
  | zero =>
      refine ⟨worker, member, unexited, ?_⟩
      by_contra stuck
      have none := Option.not_isSome_iff_eq_none.mp stuck
      obtain ⟨place, _, _, locking, _⟩ :=
        coherent.blocked_of_stuck (yields_of_returns returns system _) member unexited none
      exact absurd (coherent.wanted_lt locking) (Nat.not_lt_of_le (near place locking))
  | succ gap ih =>
      by_cases moves : system.canMove regime worker = true
      · exact ⟨worker, member, unexited, moves⟩
      · have none := Option.not_isSome_iff_eq_none.mp moves
        obtain ⟨place, other, guard, locking, otherMember, otherUnexited, own, held⟩ :=
          coherent.blocked_of_stuck (yields_of_returns returns system _) member unexited none
        have close := near place locking
        refine ih otherMember otherUnexited fun next otherLocking => ?_
        have higher := coherent.held_lower ordered otherLocking own
        rw [held] at higher
        omega

/-- Total order never deadlocks: whatever the workers do in whatever order, there is
no circular wait, and as long as a worker has not exited there is one that can go
on. -/
theorem totalOrder_deadlock_free {seed : UInt64} {shared : σ} {clock : Instant}
    (ordered : regime.mode = .totalOrder) (returns : regime.Returns)
    (sized : Sized resources workers)
    (reached : Reachable regime (fresh resources workers seed shared clock) system) :
    (∀ now, (system.shop.graph now).cycles = []) ∧
      ((∃ worker, worker.index < workers ∧ ¬ system.Exited worker) →
        ∃ worker, worker.index < workers ∧ ¬ system.Exited worker ∧
          system.canMove regime worker = true) := by
  have coherent := reachable_coherent returns sized reached
  refine ⟨coherent.no_cycles ordered, ?_⟩
  rintro ⟨worker, member, unexited⟩
  exact coherent.someone_moves ordered returns resources member unexited
    fun place _ => Nat.le_add_left _ _

/-- One worker has locked the resource that the other is blocked on, and a stop has
been requested: the first can go on, the second cannot. -/
theorem totalOrder_deadlock_free_while_blocked :
    ∃ system, Reachable (.restless .totalOrder .paired) (fresh 2 2 7 () .origin) system ∧
      system.signals.stopped = true ∧
      system.canMove (.restless .totalOrder .paired) ⟨1⟩ = false ∧
      (∀ now, (system.shop.graph now).cycles = []) ∧
      ∃ worker, worker.index < 2 ∧ ¬ system.Exited worker ∧
        system.canMove (.restless .totalOrder .paired) worker = true := by
  have moved : ((fresh 2 2 7 () .origin).run (.restless .totalOrder .paired)
      (List.replicate 5 (.step ⟨0⟩) ++ List.replicate 4 (.step ⟨1⟩) ++ [.stop .operator])).map
        (fun system => (system.signals.stopped,
          system.canMove (.restless .totalOrder .paired) ⟨1⟩, decide (system.Exited ⟨1⟩))) =
      some (true, false, false) := by
    rfl
  obtain ⟨system, found, seen⟩ := Option.map_eq_some_iff.mp moved
  simp only [Prod.mk.injEq, decide_eq_false_iff_not] at seen
  obtain ⟨stopped, blocked, unexited⟩ := seen
  obtain ⟨acyclic, progress⟩ := totalOrder_deadlock_free rfl (returns_of_sleep rfl)
    ⟨by decide, by decide, by decide⟩ ⟨_, found⟩
  exact ⟨system, ⟨_, found⟩, stopped, blocked, acyclic, progress ⟨⟨1⟩, by decide, unexited⟩⟩

end Contention.System

import Contention.Proofs.Worker.Approach
import Contention.Proofs.Worker.Steady

namespace Contention.System

variable {σ : Type} {regime : Regime σ} {resources workers : Nat} {system : System σ}
  {worker : Worker} {row : List Worker} {now : Instant} {seed : UInt64} {start : σ}
  {clock : Instant}

/-- A worker on a circular wait has what it takes first and wants what it takes last. -/
theorem Steady.between (steady : system.Steady regime resources workers)
    (isLoop : (system.shop.graph now).IsLoop row) (member : worker ∈ row) :
    worker.index < workers ∧ ∃ pair, route regime.mode regime.pairing resources worker = .ok pair ∧
      system.shop.activity worker = .locking (site pair.2) ∧
      (system.shop.guardsOf worker).map (·.site) = [site pair.1] := by
  obtain ⟨other, otherMember, waits⟩ := isLoop.blocker_mem member
  obtain ⟨_, _, onward⟩ := isLoop.blocker_mem otherMember
  obtain ⟨resource, _, locking, _⟩ := steady.reliable.blocked waits onward
  have index : worker.index < workers :=
    steady.slots ▸ Workshop.onBoard_of_activity locking (by simp)
  rcases steady.stands worker index with ⟨thread, pair, placed⟩ | fallen
  · refine ⟨index, pair, steady.resources_eq ▸ placed.route, ?_⟩
    obtain ⟨turn, _, same, sites⟩ := placed.blocked locking
    cases turn with
    | first =>
        -- whoever waits for this worker waits for something that it has
        obtain ⟨before, _, awaits⟩ := isLoop.awaited member
        obtain ⟨_, _, _, guard, own, _⟩ := steady.reliable.blocked awaits waits
        rw [List.map_eq_nil_iff.mp sites] at own
        contradiction
    | second => exact ⟨same ▸ locking, sites⟩
  · rw [fallen.deserted.idle] at locking
    contradiction

theorem Steady.ring (steady : system.Steady regime resources workers)
    (isLoop : (system.shop.graph now).IsLoop row) :
    Ring regime.mode regime.pairing resources row := by
  intro worker member
  obtain ⟨_, pair, found, locking, _⟩ := steady.between isLoop member
  obtain ⟨other, otherMember, waits⟩ := isLoop.blocker_mem member
  obtain ⟨_, _, onward⟩ := isLoop.blocker_mem otherMember
  obtain ⟨_, next, otherFound, _, sites⟩ := steady.between isLoop otherMember
  obtain ⟨_, _, again, guard, own, held⟩ := steady.reliable.blocked waits onward
  have apart := WaitGraph.blocker_ne waits
  refine ⟨pair, found, other, otherMember, apart, next, otherFound, ?_⟩
  cases locking.symm.trans again
  have among : guard.site ∈ [site next.1] := sites ▸ List.mem_map_of_mem own
  rw [held] at among
  exact (congrArg Site.resource (List.mem_singleton.mp among)).symm

theorem Steady.hazardous (steady : system.Steady regime resources workers)
    (sized : Sized resources workers) (found : (system.shop.graph now).cycles ≠ []) :
    Hazardous regime.mode regime.pairing resources workers := by
  obtain ⟨cycle, listed⟩ := List.exists_mem_of_ne_nil _ found
  have isCycle := WaitGraph.mem_cycles_iff.mp listed
  exact (steady.ring isCycle.toIsLoop).hazardous sized
    (fun worker member => (steady.between isCycle.toIsLoop member).1) isCycle.nonempty

/-- The exact map of the hazard: some run comes to a circular wait iff the mode is
unordered, there are two workers, and either these share their pair or neighbours share
around a ring of odd length that is gone round completely.  It does not matter what the
critical sections do, or whether they come to their end. -/
theorem hazard_map (sized : Sized resources workers) :
    ((∃ system now, Reachable regime (fresh resources workers seed start clock) system ∧
        (system.shop.graph now).cycles ≠ []) ↔
      regime.mode = .unordered ∧ 2 ≤ workers ∧ (regime.pairing = .paired ∨
        regime.pairing = .adjacent ∧ resources % 2 = 1 ∧ resources < workers)) ∧
    (regime.mode = .unordered → regime.pairing = .paired → ∀ couple, 2 * couple + 1 < workers →
      ∃ system, Reachable regime (fresh resources workers seed start clock) system ∧
        ∀ now, [⟨2 * couple⟩, ⟨2 * couple + 1⟩] ∈ (system.shop.graph now).cycles) := by
  refine ⟨⟨?_, fun hazardous => ?_⟩, fun unordered paired couple member => ?_⟩
  · rintro ⟨system, now, reached, found⟩
    exact (reachable_steady sized reached).hazardous sized found
  · have hazardous : Hazardous regime.mode regime.pairing resources workers := hazardous
    obtain ⟨left, right, lower, member, opposed⟩ := hazardous.opposed sized
    obtain ⟨system, reached, listed⟩ := opposed_deadlock sized opposed lower member
    exact ⟨system, clock, reached, List.ne_nil_of_mem (listed clock)⟩
  · have opposed := opposed_couple sized couple member
    rw [← unordered, ← paired] at opposed
    exact opposed_deadlock sized opposed (Nat.lt_succ_self _) member

/-- Three resources in a ring: three workers cannot deadlock, a fourth makes it possible. -/
theorem hazard_map_around_three :
    (¬ ∃ system now, Reachable (.restless .unordered .adjacent) (fresh 3 3 7 () .origin) system ∧
      (system.shop.graph now).cycles ≠ []) ∧
    ∃ system now, Reachable (.restless .unordered .adjacent) (fresh 3 4 7 () .origin) system ∧
      (system.shop.graph now).cycles ≠ [] := by
  constructor
  · rw [(hazard_map ⟨by decide, by decide, by decide⟩).1]
    simp [Regime.restless]
  · rw [(hazard_map ⟨by decide, by decide, by decide⟩).1]
    simp [Regime.restless]

end Contention.System

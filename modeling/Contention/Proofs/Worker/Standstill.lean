import Contention.Proofs.WaitGraph.Chains
import Contention.Proofs.WaitGraph.Search
import Contention.Proofs.Worker.Waiting
import Contention.Stall.Report

namespace Contention.System

variable {σ : Type} {regime : Regime σ} {resources workers : Nat} {system : System σ}
  {worker : Worker} {now : Instant}

def Remains (system : System σ) (workers : Nat) (worker : Worker) : Prop :=
  worker.index < workers ∧ ¬ system.Exited worker

theorem Coherent.entangled (coherent : system.Coherent regime resources workers)
    (yields : ∀ worker, system.Yields regime worker)
    (stuck : ∀ worker, worker.index < workers → system.canMove regime worker = false)
    (now : Instant) : (system.shop.graph now).Entangled (system.Remains workers) := by
  have blocked : ∀ {worker}, system.Remains workers worker → ∃ place other guard,
      system.shop.activity worker = .locking place ∧ other.index < workers ∧
        ¬ system.Exited other ∧ guard ∈ system.shop.guardsOf other ∧ guard.site = place := by
    intro worker remains
    have none := Option.not_isSome_iff_eq_none.mp
      (Bool.eq_false_iff.mp (stuck worker remains.1))
    exact coherent.blocked_of_stuck (yields worker) remains.1 remains.2 none
  intro worker remains
  obtain ⟨place, other, guard, locking, member, unexited, own, held⟩ := blocked remains
  have otherRemains : system.Remains workers other := ⟨member, unexited⟩
  obtain ⟨next, _, _, otherLocking, _⟩ := blocked otherRemains
  have rests : (system.shop.activity other).Resting := by
    rw [otherLocking]
    trivial
  exact ⟨other, coherent.blocker_of_locking locking own held rests now, otherRemains⟩

/-- Every standstill is explained.  In whatever way the workers have come to it, the
report of the stall shows a deadlock, and from each worker that has not exited the
chain of waits leads to one of the circular waits that are reported. -/
theorem standstill_attributed {seed : UInt64} {start : σ} {clock : Instant}
    (sized : Sized resources workers)
    (returns : ∀ system, Reachable regime (fresh resources workers seed start clock) system →
      ∀ worker, system.Yields regime worker)
    (reached : Reachable regime (fresh resources workers seed start clock) system)
    (remains : ∃ worker, worker.index < workers ∧ ¬ system.Exited worker)
    (stuck : ∀ worker, worker.index < workers → system.canMove regime worker = false)
    {report : Stall.Report} {timeout idle : Span} {total : Nat}
    (captured : report = .ofSnapshots (system.shop.board.snapshots now) timeout idle total) :
    report.showsDeadlock = true ∧
      ∀ worker, worker.index < workers → ¬ system.Exited worker →
        ∃ cycle ∈ report.cycles, ∃ last ∈ cycle,
          Relation.ReflTransGen report.graph.Awaits worker last := by
  subst captured
  have coherent := reachable_coherent_of_yields returns sized reached
  have entangled := coherent.entangled (returns system reached) stuck now
  have explained : ∀ worker, worker.index < workers → ¬ system.Exited worker →
      ∃ cycle ∈ (system.shop.graph now).cycles, ∃ last ∈ cycle,
        Relation.ReflTransGen (system.shop.graph now).Awaits worker last := by
    intro worker member unexited
    obtain ⟨cycle, isCycle, chain⟩ :=
      entangled.reaches_cycle (fun _ remains => remains.1) ⟨member, unexited⟩
    exact ⟨cycle, WaitGraph.mem_cycles_iff.mpr isCycle, chain⟩
  refine ⟨?_, explained⟩
  obtain ⟨worker, member, unexited⟩ := remains
  obtain ⟨cycle, listed, _⟩ := explained worker member unexited
  have some : (system.shop.graph now).cycles ≠ [] := List.ne_nil_of_mem listed
  change (!(system.shop.graph now).cycles.isEmpty) = true
  simpa using some

/-- Two workers wait for each other and a third for one of them; a request to stop
does not reach any of them. -/
theorem standstill_attributed_with_onlooker :
    ∃ system, Reachable (.restless .unordered .paired) (fresh 3 3 7 () .origin) system ∧
      system.signals.stopped = true ∧
      (∀ worker, worker.index < 3 →
        system.canMove (.restless .unordered .paired) worker = false) ∧
      ∀ report, report = Stall.Report.ofSnapshots (system.shop.board.snapshots .origin) .zero
          .zero 0 →
        report.showsDeadlock = true ∧ ∃ cycle ∈ report.cycles, ∃ last ∈ cycle,
          Relation.ReflTransGen report.graph.Awaits ⟨2⟩ last := by
  have moved : ((fresh 3 3 7 () .origin).run (.restless .unordered .paired)
      (List.replicate 10 (.step ⟨0⟩) ++ List.replicate 10 (.step ⟨1⟩) ++
        List.replicate 4 (.step ⟨2⟩) ++ [.stop .operator])).map
          (fun system => (system.signals.stopped, decide (system.Exited ⟨2⟩),
            (team 3).all fun worker =>
              !system.canMove (.restless .unordered .paired) worker)) =
      some (true, false, true) := by
    rfl
  obtain ⟨system, found, seen⟩ := Option.map_eq_some_iff.mp moved
  simp only [Prod.mk.injEq, decide_eq_false_iff_not, List.all_eq_true, Bool.not_eq_true'] at seen
  obtain ⟨stopped, unexited, stuck⟩ := seen
  have still : ∀ worker, worker.index < 3 →
      system.canMove (.restless .unordered .paired) worker = false :=
    fun worker member => stuck worker (mem_team.mpr member)
  refine ⟨system, ⟨_, found⟩, stopped, still, fun report captured => ?_⟩
  obtain ⟨shown, explained⟩ := standstill_attributed ⟨by decide, by decide, by decide⟩
    (fun system _ => yields_of_returns (returns_of_sleep rfl) system) ⟨_, found⟩
    ⟨⟨2⟩, by decide, unexited⟩ still captured
  exact ⟨shown, explained ⟨2⟩ (by decide) unexited⟩

end Contention.System

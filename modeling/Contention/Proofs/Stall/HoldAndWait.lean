import Contention.Proofs.WaitGraph.Queues
import Contention.Proofs.WaitGraph.Search
import Contention.Stall.Report
import Mathlib.Algebra.Ring.Nat

namespace Contention

variable {snapshots : List Snapshot} {worker other : Worker} {loop : List Worker}

namespace WaitGraph

theorem waits_of_blocker (blocked : (ofSnapshots snapshots).blocker worker = some other) :
    ∃ snapshot ∈ snapshots, snapshot.worker = worker ∧ snapshot.awaiting.isSome = true := by
  obtain ⟨resource, awaited, _, _⟩ := blocker_eq_some_iff.mp blocked
  rw [awaitedBy_ofSnapshots] at awaited
  obtain ⟨snapshot, member, same, awaiting⟩ := mem_requests.mp (List.mem_of_getLast? awaited)
  exact ⟨snapshot, member, same, Option.isSome_of_mem awaiting⟩

theorem holds_of_blocker (blocked : (ofSnapshots snapshots).blocker worker = some other) :
    ∃ snapshot ∈ snapshots, snapshot.worker = other ∧ snapshot.held.isEmpty = false := by
  obtain ⟨resource, _, holder, _⟩ := blocker_eq_some_iff.mp blocked
  rw [holder_ofSnapshots] at holder
  obtain ⟨snapshot, member, held, same⟩ := mem_claimants.mp (List.mem_of_mem_head? holder)
  exact ⟨snapshot, member, same, List.isEmpty_eq_false_iff.mpr (List.ne_nil_of_mem held)⟩

/-- Its one record shows what a worker of a loop waits for and also what another of the loop
waits for. -/
theorem IsLoop.holdsAndWaits (isLoop : (ofSnapshots snapshots).IsLoop loop)
    (distinct : (snapshots.map (·.worker)).Nodup) (member : worker ∈ loop) :
    ∃ snapshot ∈ snapshots.filter Snapshot.holdsAndWaits, snapshot.worker = worker := by
  obtain ⟨_, _, waits⟩ := isLoop.blocker_mem member
  obtain ⟨_, _, waitedFor⟩ := isLoop.awaited member
  obtain ⟨one, oneMember, same, awaiting⟩ := waits_of_blocker waits
  obtain ⟨two, twoMember, again, held⟩ := holds_of_blocker waitedFor
  have equal : two = one :=
    List.inj_on_of_nodup_map distinct twoMember oneMember (again.trans same.symm)
  refine ⟨one, List.mem_filter.mpr ⟨oneMember, ?_⟩, same⟩
  rw [Snapshot.holdsAndWaits, awaiting, ← equal, held]
  rfl

end WaitGraph

namespace Stall.Report

/-- The workers of all circular waits of a report are among those that it shows to hold one
resource and wait for another, each counted once. -/
theorem cycles_hold_and_wait (distinct : (snapshots.map (·.worker)).Nodup) (timeout idle : Span)
    (total : Nat) :
    let report := ofSnapshots snapshots timeout idle total
    (∀ cycle ∈ report.cycles, ∀ worker ∈ cycle,
        ∃ snapshot ∈ report.holdingAndWaiting, snapshot.worker = worker) ∧
      (∀ cycle ∈ report.cycles, 2 ≤ cycle.length) ∧
      (report.cycles.map List.length).sum ≤ report.holdingAndWaiting.length ∧
      (report.showsDeadlock = true → 2 ≤ report.holdingAndWaiting.length) := by
  intro report
  have involved : ∀ cycle ∈ report.cycles, ∀ worker ∈ cycle,
      ∃ snapshot ∈ report.holdingAndWaiting, snapshot.worker = worker :=
    fun cycle listed worker member =>
      (WaitGraph.mem_cycles_iff.mp listed).holdsAndWaits distinct member
  have pairs : ∀ cycle ∈ report.cycles, 2 ≤ cycle.length :=
    fun cycle listed => (WaitGraph.mem_cycles_iff.mp listed).two_le_length
  have counted : report.cycles.flatten.length ≤ report.holdingAndWaiting.length := by
    have nodup : report.cycles.flatten.Nodup := WaitGraph.cycles_flatten_nodup _
    have among : report.cycles.flatten ⊆ report.holdingAndWaiting.map (·.worker) := by
      intro worker member
      obtain ⟨cycle, listed, inside⟩ := List.mem_flatten.mp member
      exact List.mem_map.mpr (involved cycle listed worker inside)
    simpa using nodup.length_le_of_subset among
  refine ⟨involved, pairs, ?_, fun deadlocked => ?_⟩
  · rw [← List.length_flatten]
    exact counted
  · have found : report.cycles ≠ [] := by simpa [showsDeadlock] using deadlocked
    obtain ⟨cycle, listed⟩ := List.exists_mem_of_ne_nil _ found
    exact (pairs cycle listed).trans ((List.sublist_flatten_of_mem listed).length_le.trans counted)

/-- One worker outside the circular wait claims a resource of it and waits for another, and
one waits without holding anything. -/
theorem cycles_hold_and_wait_beside_stale_record :
    let snapshots : List Snapshot := [⟨⟨0⟩, .one ⟨0⟩, some ⟨1⟩, 0, 0⟩,
      ⟨⟨1⟩, .one ⟨1⟩, some ⟨2⟩, 0, 0⟩, ⟨⟨2⟩, .one ⟨2⟩, some ⟨0⟩, 0, 0⟩,
      ⟨⟨3⟩, .two ⟨3⟩ ⟨0⟩, some ⟨1⟩, 0, 0⟩, ⟨⟨4⟩, .none, some ⟨3⟩, 0, 0⟩]
    let report := ofSnapshots snapshots .zero .zero 0
    (snapshots.map (·.worker)).Nodup ∧ report.cycles = [[⟨0⟩, ⟨1⟩, ⟨2⟩]] ∧
      report.showsDeadlock = true ∧ report.holdingAndWaiting.length = 4 ∧
      (∃ snapshot ∈ report.holdingAndWaiting, snapshot.worker = ⟨2⟩) ∧
      (report.cycles.map List.length).sum ≤ report.holdingAndWaiting.length ∧
      2 ≤ report.holdingAndWaiting.length := by
  intro snapshots report
  have distinct : (snapshots.map (·.worker)).Nodup := by decide +kernel
  have cycles : report.cycles = [[⟨0⟩, ⟨1⟩, ⟨2⟩]] := by decide +kernel
  have deadlocked : report.showsDeadlock = true := by decide +kernel
  obtain ⟨involved, _, counted, several⟩ := cycles_hold_and_wait distinct .zero .zero 0
  exact ⟨distinct, cycles, deadlocked, by decide +kernel,
    involved [⟨0⟩, ⟨1⟩, ⟨2⟩] (cycles ▸ List.mem_cons_self) ⟨2⟩ (by decide), counted,
    several deadlocked⟩

end Stall.Report

end Contention

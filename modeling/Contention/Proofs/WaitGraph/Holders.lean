import Contention.Proofs.Snapshots
import Contention.Proofs.WaitGraph.Loops

namespace Contention

variable {snapshots : List Snapshot} {workers : List Worker} {first worker : Worker}
  {resource : Resource}

def claimants (snapshots : List Snapshot) (resource : Resource) : List Worker :=
  (snapshots.filter (·.held.contains resource)).map (·.worker)

theorem mem_claimants :
    worker ∈ claimants snapshots resource ↔
      ∃ snapshot ∈ snapshots, resource ∈ snapshot.held.toList ∧ snapshot.worker = worker := by
  simp [claimants, Holding.contains_iff, and_assoc]

theorem lookup_held (held : Holding) (worker : Worker) (resource : Resource) :
    (held.toList.map fun one => (one, worker)).lookup resource =
      if held.contains resource then some worker else none := by
  unfold Holding.contains
  induction held.toList with
  | nil => rfl
  | cons one rest ih =>
      rw [List.map_cons, List.lookup_cons, List.any_cons]
      by_cases same : resource = one
      · simp [same]
      · have apart : ¬ one = resource := fun equal => same equal.symm
        rw [beq_eq_false_iff_ne.mpr same, decide_eq_false apart, Bool.false_or]
        exact ih

theorem WaitGraph.holder_ofSnapshots (snapshots : List Snapshot) (resource : Resource) :
    (ofSnapshots snapshots).holder resource = (claimants snapshots resource).head? := by
  induction snapshots with
  | nil => rfl
  | cons snapshot rest ih =>
      have split : (ofSnapshots (snapshot :: rest)).holder resource =
          ((snapshot.held.toList.map fun one => (one, snapshot.worker)).lookup resource).or
            ((ofSnapshots rest).holder resource) := by
        simp only [holder, ofSnapshots, List.flatMap_cons, List.lookup_append]
      rw [split, lookup_held, ih, claimants, claimants, List.filter_cons]
      cases snapshot.held.contains resource <;> rfl

theorem leastWorker_of_head (head : workers.head? = some first)
    (least : ∀ other ∈ workers, first ≤ other) : leastWorker workers = some first := by
  have member : first ∈ workers := List.mem_of_mem_head? head
  obtain ⟨lowest, found⟩ := leastWorker_exists (List.ne_nil_of_mem member)
  obtain ⟨among, bound⟩ := leastWorker_least found
  rw [found, Worker.le_antisymm (bound first member) (least lowest among)]

theorem head?_eq_leastWorker_iff :
    workers.head? = leastWorker workers ↔
      ∀ first ∈ workers.head?, ∀ other ∈ workers, first ≤ other := by
  constructor
  · intro same first head
    rw [Option.mem_def, same] at head
    exact (leastWorker_least head).2
  · intro least
    cases head : workers.head? with
    | none =>
        rw [List.head?_eq_none_iff.mp head]
        rfl
    | some first => exact (leastWorker_of_head head (least first head)).symm

namespace Board

theorem claimants_sorted (board : Board) (now : Instant) (resource : Resource) :
    (claimants (board.snapshots now) resource).Pairwise fun left right => left ≤ right :=
  List.pairwise_map.mpr ((board.snapshots_sorted now).filter _)

end Board

/-- Of the workers that claim a resource the first in the list is believed to hold it.
That is the lowest of them only if no lower one comes after it, as on a board. -/
theorem first_claimant_believed (snapshots : List Snapshot) (resource : Resource) :
    (WaitGraph.ofSnapshots snapshots).holder resource = (claimants snapshots resource).head? ∧
      ((WaitGraph.ofSnapshots snapshots).holder resource =
          leastWorker (claimants snapshots resource) ↔
        ∀ first ∈ (claimants snapshots resource).head?,
          ∀ other ∈ claimants snapshots resource, first ≤ other) ∧
      ∀ (board : Board) (now : Instant),
        (WaitGraph.ofSnapshots (board.snapshots now)).holder resource =
          leastWorker (claimants (board.snapshots now) resource) := by
  simp only [WaitGraph.holder_ofSnapshots]
  refine ⟨trivial, head?_eq_leastWorker_iff, fun board now => ?_⟩
  refine head?_eq_leastWorker_iff.mpr fun first head other member => ?_
  have sorted := board.claimants_sorted now resource
  cases claims : claimants (board.snapshots now) resource with
  | nil =>
      rw [claims] at member
      contradiction
  | cons lowest rest =>
      rw [claims] at head member sorted
      cases head
      rcases List.mem_cons.mp member with rfl | later
      · exact Nat.le_refl _
      · exact (List.pairwise_cons.mp sorted).1 other later

/-- A stale record in front of the others hides the deadlock of two workers behind it. -/
example :
    let stale : Snapshot := ⟨⟨2⟩, .one ⟨0⟩, none, 0, 0⟩
    let blocked : List Snapshot :=
      [⟨⟨0⟩, .one ⟨0⟩, some ⟨1⟩, 0, 0⟩, ⟨⟨1⟩, .one ⟨1⟩, some ⟨0⟩, 0, 0⟩]
    leastWorker (claimants (stale :: blocked) ⟨0⟩) = some ⟨0⟩ ∧
      (WaitGraph.ofSnapshots (stale :: blocked)).holder ⟨0⟩ = some ⟨2⟩ ∧
      (WaitGraph.ofSnapshots (stale :: blocked)).cycles = [] ∧
      (WaitGraph.ofSnapshots (blocked ++ [stale])).cycles = [[⟨0⟩, ⟨1⟩]] := by
  decide +kernel

end Contention

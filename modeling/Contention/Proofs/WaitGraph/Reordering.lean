import Contention.Proofs.WaitGraph.Edges
import Contention.Proofs.WaitGraph.Queues
import Contention.Proofs.WaitGraph.Search
import Mathlib.Data.List.Lex
import Mathlib.Data.List.Sort

namespace Contention

variable {snapshots others : List Snapshot} {worker : Worker} {resource : Resource}

def Exclusive (snapshots : List Snapshot) : Prop :=
  ∀ one ∈ snapshots, ∀ other ∈ snapshots, ∀ resource ∈ one.held.toList,
    resource ∈ other.held.toList → one.worker = other.worker

instance (snapshots : List Snapshot) : Decidable (Exclusive snapshots) :=
  inferInstanceAs (Decidable (∀ one ∈ snapshots, ∀ other ∈ snapshots,
    ∀ resource ∈ one.held.toList, resource ∈ other.held.toList → one.worker = other.worker))

theorem Exclusive.claimants_alike (exclusive : Exclusive snapshots) (resource : Resource) :
    Alike (claimants snapshots resource) := by
  intro one oneClaims other otherClaims
  obtain ⟨early, earlyMember, earlyHeld, rfl⟩ := mem_claimants.mp oneClaims
  obtain ⟨late, lateMember, lateHeld, rfl⟩ := mem_claimants.mp otherClaims
  exact exclusive early earlyMember late lateMember resource earlyHeld lateHeld

section Alike

variable {α : Type} {row turned : List α}

theorem Alike.perm (alike : Alike row) (permuted : row.Perm turned) : Alike turned :=
  fun one member other among =>
    alike one (permuted.mem_iff.mpr member) other (permuted.mem_iff.mpr among)

theorem Alike.head?_eq (alike : Alike row) (permuted : row.Perm turned) :
    row.head? = turned.head? := by
  refine Option.ext fun value => ?_
  rw [alike.head?_eq_some_iff, (alike.perm permuted).head?_eq_some_iff, permuted.mem_iff]

theorem Alike.getLast?_eq (alike : Alike row) (permuted : row.Perm turned) :
    row.getLast? = turned.getLast? := by
  refine Option.ext fun value => ?_
  rw [alike.getLast?_eq_some_iff, (alike.perm permuted).getLast?_eq_some_iff, permuted.mem_iff]

end Alike

instance : Std.Asymm fun lower upper : Worker => lower.index < upper.index :=
  ⟨fun _ _ below above => Nat.lt_asymm below above⟩

theorem ascending_eq_of_perm {left right : List Worker} (permuted : left.Perm right) :
    ascending left = ascending right := by
  refine (ascending_ascends left).eq_of_mem_iff (ascending_ascends right) fun worker => ?_
  rw [ascending_mem, ascending_mem, permuted.mem_iff]

namespace WaitGraph

variable {left right : WaitGraph}

theorem queue_eq_of_perm (permuted : left.waits.Perm right.waits) (resource : Resource) :
    left.queue resource = right.queue resource := by
  have chosen := permuted.filter fun wait => decide (wait.2 = resource)
  unfold queue
  generalize left.waits.filter _ = here at chosen ⊢
  generalize right.waits.filter _ = there at chosen ⊢
  cases here with
  | nil => rw [chosen.nil_eq]
  | cons wait rest =>
      cases there with
      | nil => exact absurd chosen.eq_nil (List.cons_ne_nil _ _)
      | cons other others => exact congrArg some (ascending_eq_of_perm (chosen.map _))

theorem edges_eq (permuted : left.waits.Perm right.waits)
    (same : ∀ worker, left.blocker worker = right.blocker worker) : left.edges = right.edges := by
  have waiting : left.waiting = right.waiting := ascending_eq_of_perm (permuted.map _)
  simp only [edges, waiting, same]

/-- The cycles hang on nothing but who waits for whom. -/
theorem cycles_eq (same : ∀ worker, left.blocker worker = right.blocker worker) :
    left.cycles = right.cycles := by
  refine left.cycles_ordered.eq_of_mem_iff right.cycles_ordered fun cycle => ?_
  rw [mem_cycles_iff, mem_cycles_iff]
  exact ⟨fun isCycle => isCycle.of_blocker fun worker _ => (same worker).symm,
    fun isCycle => isCycle.of_blocker fun worker _ => same worker⟩

theorem holder_eq_of_perm (permuted : snapshots.Perm others) (exclusive : Exclusive snapshots)
    (resource : Resource) :
    (ofSnapshots snapshots).holder resource = (ofSnapshots others).holder resource := by
  rw [holder_ofSnapshots, holder_ofSnapshots]
  exact (exclusive.claimants_alike resource).head?_eq ((permuted.filter _).map _)

theorem awaitedBy_eq_of_perm (permuted : snapshots.Perm others)
    (distinct : (snapshots.map (·.worker)).Nodup) (worker : Worker) :
    (ofSnapshots snapshots).awaitedBy worker = (ofSnapshots others).awaitedBy worker := by
  rw [awaitedBy_ofSnapshots, awaitedBy_ofSnapshots]
  exact (requests_alike distinct worker).getLast?_eq ((permuted.filter _).filterMap _)

/-- The same records in another order give the same owners, queues, waits and cycles. -/
theorem diagnosis_eq_of_perm (permuted : snapshots.Perm others)
    (distinct : (snapshots.map (·.worker)).Nodup) (exclusive : Exclusive snapshots) :
    (∀ resource, (ofSnapshots snapshots).holder resource = (ofSnapshots others).holder resource) ∧
      (∀ resource, (ofSnapshots snapshots).queue resource = (ofSnapshots others).queue resource) ∧
      (∀ worker, (ofSnapshots snapshots).blocker worker = (ofSnapshots others).blocker worker) ∧
      (ofSnapshots snapshots).edges.length = (ofSnapshots others).edges.length ∧
      (ofSnapshots snapshots).cycles = (ofSnapshots others).cycles ∧
      (ofSnapshots snapshots).hasMutualWait = (ofSnapshots others).hasMutualWait := by
  have holders := holder_eq_of_perm permuted exclusive
  have waits : (ofSnapshots snapshots).waits.Perm (ofSnapshots others).waits :=
    permuted.filterMap _
  have blockers : ∀ worker,
      (ofSnapshots snapshots).blocker worker = (ofSnapshots others).blocker worker := by
    intro worker
    simp only [blocker, awaitedBy_eq_of_perm permuted distinct worker, holders]
  have cycles := cycles_eq blockers
  refine ⟨holders, queue_eq_of_perm waits, blockers, congrArg List.length (edges_eq waits blockers),
    cycles, ?_⟩
  rw [hasMutualWait, hasMutualWait, cycles]

/-- Two circular waits, with a worker that waits for one of them, read from the back. -/
theorem diagnosis_eq_when_reversed :
    let snapshots : List Snapshot := [⟨⟨3⟩, .one ⟨3⟩, some ⟨2⟩, 0, 0⟩,
      ⟨⟨2⟩, .one ⟨2⟩, some ⟨3⟩, 0, 0⟩, ⟨⟨4⟩, .two ⟨5⟩ ⟨4⟩, some ⟨2⟩, 0, 0⟩,
      ⟨⟨0⟩, .one ⟨0⟩, some ⟨1⟩, 0, 0⟩, ⟨⟨1⟩, .one ⟨1⟩, some ⟨0⟩, 0, 0⟩]
    snapshots.Perm snapshots.reverse ∧ (snapshots.map (·.worker)).Nodup ∧ Exclusive snapshots ∧
      (ofSnapshots snapshots.reverse).queue ⟨2⟩ = some [⟨3⟩, ⟨4⟩] ∧
      (ofSnapshots snapshots.reverse).blocker ⟨4⟩ = some ⟨2⟩ ∧
      (ofSnapshots snapshots.reverse).edges.length = 5 ∧
      (ofSnapshots snapshots.reverse).cycles = [[⟨0⟩, ⟨1⟩], [⟨2⟩, ⟨3⟩]] := by
  intro snapshots
  have permuted : snapshots.Perm snapshots.reverse := snapshots.reverse_perm.symm
  have distinct : (snapshots.map (·.worker)).Nodup := by decide +kernel
  have exclusive : Exclusive snapshots := by decide +kernel
  have found : (ofSnapshots snapshots).walks.filterMap Walk.cycle? =
      [[⟨0⟩, ⟨1⟩], [⟨2⟩, ⟨3⟩]] := by decide +kernel
  have sorted : (ofSnapshots snapshots).cycles = [[⟨0⟩, ⟨1⟩], [⟨2⟩, ⟨3⟩]] := by
    rw [WaitGraph.cycles, found]
    exact List.mergeSort_of_pairwise (by decide)
  obtain ⟨_, queues, blockers, edges, cycles, _⟩ :=
    diagnosis_eq_of_perm permuted distinct exclusive
  exact ⟨permuted, distinct, exclusive, (queues ⟨2⟩).symm.trans (by decide +kernel),
    (blockers ⟨4⟩).symm.trans (by decide +kernel), edges.symm.trans (by decide +kernel),
    cycles.symm.trans sorted⟩

end WaitGraph

end Contention

import Contention.Proofs.WaitGraph.Holders
import Contention.Proofs.WaitGraph.Walks

namespace Contention

variable {snapshots : List Snapshot} {worker : Worker} {resource : Resource}

def requests (snapshots : List Snapshot) (worker : Worker) : List Resource :=
  (snapshots.filter fun snapshot => decide (snapshot.worker = worker)).filterMap (·.awaiting)

theorem mem_requests :
    resource ∈ requests snapshots worker ↔
      ∃ snapshot ∈ snapshots, snapshot.worker = worker ∧ snapshot.awaiting = some resource := by
  simp [requests, and_assoc]

/-- A row in which there is only one thing to be found, however often. -/
def Alike {α : Type} (row : List α) : Prop := ∀ one ∈ row, ∀ other ∈ row, one = other

section Alike

variable {α : Type} {row : List α} {value : α}

theorem Alike.head?_eq_some_iff (alike : Alike row) : row.head? = some value ↔ value ∈ row := by
  constructor
  · exact List.mem_of_mem_head?
  · intro member
    cases row with
    | nil => contradiction
    | cons first rest => exact congrArg some (alike first List.mem_cons_self value member)

theorem Alike.getLast?_eq_some_iff (alike : Alike row) :
    row.getLast? = some value ↔ value ∈ row := by
  have turned : Alike row.reverse := fun one member other among =>
    alike one (List.mem_reverse.mp member) other (List.mem_reverse.mp among)
  rw [← List.head?_reverse, turned.head?_eq_some_iff, List.mem_reverse]

end Alike

theorem requests_alike (distinct : (snapshots.map (·.worker)).Nodup) (worker : Worker) :
    Alike (requests snapshots worker) := by
  intro one oneAsked other otherAsked
  obtain ⟨early, earlyMember, rfl, earlyAwaits⟩ := mem_requests.mp oneAsked
  obtain ⟨late, lateMember, same, lateAwaits⟩ := mem_requests.mp otherAsked
  have equal : late = early := List.inj_on_of_nodup_map distinct lateMember earlyMember same
  rw [equal, earlyAwaits] at lateAwaits
  exact Option.some.inj lateAwaits

namespace WaitGraph

variable {graph : WaitGraph}

def Queued (graph : WaitGraph) (resource : Resource) (worker : Worker) : Prop :=
  ∃ workers ∈ graph.queue resource, worker ∈ workers

theorem mem_waits_ofSnapshots :
    (worker, resource) ∈ (ofSnapshots snapshots).waits ↔ resource ∈ requests snapshots worker := by
  simp only [ofSnapshots, List.mem_filterMap, mem_requests, Option.map_eq_some_iff, Prod.mk.injEq]
  grind

theorem queued_iff : graph.Queued resource worker ↔ (worker, resource) ∈ graph.waits := by
  have listed : (worker, resource) ∈ graph.waits ↔
      worker ∈ (graph.waits.filter fun wait => decide (wait.2 = resource)).map (·.1) := by
    simp
  rw [listed, Queued, queue]
  cases graph.waits.filter fun wait => decide (wait.2 = resource) with
  | nil => simp
  | cons wait rest => simp

theorem awaitedBy_ofSnapshots (snapshots : List Snapshot) (worker : Worker) :
    (ofSnapshots snapshots).awaitedBy worker = (requests snapshots worker).getLast? := by
  induction snapshots using List.reverseRecOn with
  | nil => rfl
  | append_singleton earlier last ih =>
      have split : (ofSnapshots (earlier ++ [last])).awaitedBy worker =
          ((last.awaiting.map fun resource => (last.worker, resource)).toList.lookup worker).or
            ((ofSnapshots earlier).awaitedBy worker) := by
        simp only [awaitedBy, ofSnapshots, List.filterMap_append, List.reverse_append,
          List.lookup_append, List.filterMap_cons, List.filterMap_nil]
        cases last.awaiting <;> rfl
      rw [split, ih]
      simp only [requests, List.filter_append, List.filterMap_append, List.getLast?_append]
      congr 1
      by_cases same : last.worker = worker
      · cases awaiting : last.awaiting <;> simp [same, awaiting]
      · have apart : (worker == last.worker) = false :=
          beq_eq_false_iff_ne.mpr fun equal => same equal.symm
        cases last.awaiting <;> simp [same, List.lookup_cons, apart]

theorem queued_iff_awaited (alike : Alike (requests snapshots worker)) :
    (ofSnapshots snapshots).Queued resource worker ↔
      (ofSnapshots snapshots).awaitedBy worker = some resource := by
  rw [queued_iff, mem_waits_ofSnapshots, awaitedBy_ofSnapshots, alike.getLast?_eq_some_iff]

end WaitGraph

/-- A worker stands in the queues of all resources that its snapshots show it to wait for,
while the last of them is the one that is believed.  Both agree for exactly those workers
that stand in one queue only, as all of a board do. -/
theorem last_request_believed (snapshots : List Snapshot) (worker : Worker) :
    (∀ resource, (WaitGraph.ofSnapshots snapshots).Queued resource worker ↔
        resource ∈ requests snapshots worker) ∧
      (WaitGraph.ofSnapshots snapshots).awaitedBy worker = (requests snapshots worker).getLast? ∧
      ((∀ resource, (WaitGraph.ofSnapshots snapshots).Queued resource worker ↔
          (WaitGraph.ofSnapshots snapshots).awaitedBy worker = some resource) ↔
        Alike (requests snapshots worker)) ∧
      ((∀ one other, (WaitGraph.ofSnapshots snapshots).Queued one worker →
          (WaitGraph.ofSnapshots snapshots).Queued other worker → one = other) ↔
        Alike (requests snapshots worker)) ∧
      ∀ (board : Board) (now : Instant) (resource : Resource),
        (WaitGraph.ofSnapshots (board.snapshots now)).Queued resource worker ↔
          (WaitGraph.ofSnapshots (board.snapshots now)).awaitedBy worker = some resource := by
  have queued : ∀ resource, (WaitGraph.ofSnapshots snapshots).Queued resource worker ↔
      resource ∈ requests snapshots worker :=
    fun _ => WaitGraph.queued_iff.trans WaitGraph.mem_waits_ofSnapshots
  refine ⟨queued, WaitGraph.awaitedBy_ofSnapshots snapshots worker, ⟨?_, ?_⟩, ⟨?_, ?_⟩, ?_⟩
  · intro agrees one oneAsked other otherAsked
    have first := (agrees one).mp ((queued one).mpr oneAsked)
    have second := (agrees other).mp ((queued other).mpr otherAsked)
    exact Option.some.inj (first.symm.trans second)
  · exact fun alike _ => WaitGraph.queued_iff_awaited alike
  · intro single one oneAsked other otherAsked
    exact single one other ((queued one).mpr oneAsked) ((queued other).mpr otherAsked)
  · intro alike one other oneQueued otherQueued
    exact alike one ((queued one).mp oneQueued) other ((queued other).mp otherQueued)
  · intro board now resource
    exact WaitGraph.queued_iff_awaited (requests_alike (board.snapshots_distinct now) worker)

/-- A worker that has moved on from one resource to another still stands in the first queue. -/
example :
    let graph := WaitGraph.ofSnapshots [⟨⟨0⟩, .none, some ⟨0⟩, 0, 0⟩, ⟨⟨1⟩, .none, some ⟨0⟩, 0, 0⟩,
      ⟨⟨2⟩, .one ⟨0⟩, none, 0, 0⟩, ⟨⟨0⟩, .none, some ⟨1⟩, 0, 0⟩, ⟨⟨3⟩, .one ⟨1⟩, none, 0, 0⟩]
    graph.queue ⟨0⟩ = some [⟨0⟩, ⟨1⟩] ∧ graph.queue ⟨1⟩ = some [⟨0⟩] ∧
      graph.blocker ⟨0⟩ = some ⟨3⟩ := by
  decide +kernel

end Contention

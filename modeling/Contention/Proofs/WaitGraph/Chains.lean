import Contention.Proofs.WaitGraph.Loops
import Mathlib.Data.Fintype.Pigeonhole
import Mathlib.Dynamics.PeriodicPts.Defs
import Mathlib.Logic.Relation

namespace Contention.WaitGraph

variable {graph : WaitGraph} {group : Worker → Prop} {worker first : Worker}

def Awaits (graph : WaitGraph) (worker other : Worker) : Prop := graph.blocker worker = some other

/-- The next worker of a chain of waits; a worker that waits for nobody is its own. -/
def successor (graph : WaitGraph) (worker : Worker) : Worker := (graph.blocker worker).getD worker

def Entangled (graph : WaitGraph) (group : Worker → Prop) : Prop :=
  ∀ worker, group worker → ∃ other, graph.blocker worker = some other ∧ group other

theorem Entangled.awaits (entangled : graph.Entangled group) (member : group worker) :
    graph.blocker worker = some (graph.successor worker) ∧ group (graph.successor worker) := by
  obtain ⟨other, waits, among⟩ := entangled worker member
  rw [successor, waits]
  exact ⟨rfl, among⟩

theorem Entangled.iterate (entangled : graph.Entangled group) (member : group worker)
    (count : Nat) :
    group (graph.successor^[count] worker) ∧
      Relation.ReflTransGen graph.Awaits worker (graph.successor^[count] worker) := by
  induction count with
  | zero => exact ⟨member, .refl⟩
  | succ count ih =>
      obtain ⟨among, chain⟩ := ih
      obtain ⟨waits, next⟩ := entangled.awaits among
      rw [Function.iterate_succ_apply']
      exact ⟨next, chain.tail waits⟩

theorem Entangled.isLoop (entangled : graph.Entangled group) (member : group first)
    (periodic : first ∈ Function.periodicPts graph.successor) :
    graph.IsLoop ((List.range (Function.minimalPeriod graph.successor first)).map
      fun count => graph.successor^[count] first) where
  nonempty := by
    have positive := Function.minimalPeriod_pos_of_mem_periodicPts periodic
    simpa using Nat.ne_of_gt positive
  distinct := by
    refine List.Nodup.map_on (fun left leftMember right rightMember same => ?_) List.nodup_range
    exact Function.iterate_injOn_Iio_minimalPeriod (List.mem_range.mp leftMember)
      (List.mem_range.mp rightMember) same
  linked := by
    intro index inside
    have positive := Function.minimalPeriod_pos_of_mem_periodicPts periodic
    obtain ⟨among, _⟩ := entangled.iterate member index
    rw [List.getElem_map, List.getElem_range, (entangled.awaits among).1, List.length_map,
      List.length_range, List.getElem?_map, List.getElem?_range (Nat.mod_lt _ positive),
      Option.map_some, Function.iterate_mod_minimalPeriod_eq, Function.iterate_succ_apply']

/-- Every chain of waits comes back to a worker that it has met. -/
theorem Entangled.periodic (entangled : graph.Entangled group) {bound : Nat}
    (few : ∀ worker, group worker → worker.index < bound) (member : group worker) :
    ∃ count, graph.successor^[count] worker ∈ Function.periodicPts graph.successor := by
  -- The chain goes on for ever among only so many workers.
  obtain ⟨one, two, apart, same⟩ := Finite.exists_ne_map_eq_of_infinite fun count : Nat =>
    (⟨(graph.successor^[count] worker).index, few _ (entangled.iterate member count).1⟩ : Fin bound)
  have met : graph.successor^[one] worker = graph.successor^[two] worker :=
    congrArg Worker.mk (Fin.mk.inj same)
  have returns : ∀ early late, early < late →
      graph.successor^[early] worker = graph.successor^[late] worker →
      graph.successor^[early] worker ∈ Function.periodicPts graph.successor := by
    intro early late before again
    refine Function.mk_mem_periodicPts (Nat.sub_pos_of_lt before) ?_
    rw [Function.IsPeriodicPt, Function.IsFixedPt, ← Function.iterate_add_apply,
      Nat.sub_add_cancel (Nat.le_of_lt before), ← again]
  rcases Nat.lt_or_gt_of_ne apart with before | after
  · exact ⟨one, returns one two before met⟩
  · exact ⟨two, returns two one after met.symm⟩

theorem Entangled.reaches_cycle (entangled : graph.Entangled group) {bound : Nat}
    (few : ∀ worker, group worker → worker.index < bound) (member : group worker) :
    ∃ cycle, graph.IsCycle cycle ∧
      ∃ last ∈ cycle, Relation.ReflTransGen graph.Awaits worker last := by
  obtain ⟨count, periodic⟩ := entangled.periodic few member
  obtain ⟨among, chain⟩ := entangled.iterate member count
  have isLoop := entangled.isLoop among periodic
  refine ⟨_, isLoop.isCycle_rotateToLeast, graph.successor^[count] worker, ?_, chain⟩
  rw [mem_rotateToLeast isLoop.nonempty, List.mem_map]
  exact ⟨0, List.mem_range.mpr (Function.minimalPeriod_pos_of_mem_periodicPts periodic), rfl⟩

end Contention.WaitGraph

import Contention.Proofs.WaitGraph.Walks
import Mathlib.Data.List.Nodup

namespace Contention

theorem insertSorted_ascends {worker : Worker} {workers : List Worker}
    (ascends : workers.Pairwise fun left right => left.index < right.index) :
    (insertSorted worker workers).Pairwise fun left right => left.index < right.index := by
  induction workers with
  | nil => exact List.pairwise_singleton _ _
  | cons next rest ih =>
      obtain ⟨above, tail⟩ := List.pairwise_cons.mp ascends
      simp only [insertSorted]
      split
      · exact ascends
      · rename_i apart
        split
        · rename_i below
          have before : worker.index < next.index :=
            Nat.lt_of_le_of_ne below fun same => apart (congrArg Worker.mk same)
          refine List.pairwise_cons.mpr ⟨fun other member => ?_, ascends⟩
          rcases List.mem_cons.mp member with rfl | member
          · exact before
          · exact Nat.lt_trans before (above other member)
        · rename_i beyond
          refine List.pairwise_cons.mpr ⟨fun other member => ?_, ih tail⟩
          rcases insertSorted_mem.mp member with rfl | member
          · exact Nat.lt_of_not_le beyond
          · exact above other member

theorem ascending_ascends (workers : List Worker) :
    (ascending workers).Pairwise fun left right => left.index < right.index := by
  induction workers with
  | nil => exact .nil
  | cons worker rest ih => exact insertSorted_ascends ih

theorem ascending_nodup (workers : List Worker) : (ascending workers).Nodup :=
  (ascending_ascends workers).imp fun below same => Nat.ne_of_lt below (congrArg Worker.index same)

namespace WaitGraph

variable {graph : WaitGraph} {workers : List Worker}

theorem edges_length (distinct : workers.Nodup)
    (all : ∀ worker other, graph.blocker worker = some other → worker ∈ workers) :
    graph.edges.length = workers.countP fun worker => (graph.blocker worker).isSome := by
  have counted : graph.edges.length =
      graph.waiting.countP fun worker => (graph.blocker worker).isSome := by
    simp only [edges, List.length_filterMap_eq_countP, Option.isSome_map]
  rw [counted, List.countP_eq_length_filter, List.countP_eq_length_filter]
  have same : (graph.waiting.filter fun worker => (graph.blocker worker).isSome).Perm
      (workers.filter fun worker => (graph.blocker worker).isSome) := by
    refine (List.perm_ext_iff_of_nodup ((ascending_nodup _).filter _) (distinct.filter _)).mpr
      fun worker => ?_
    simp only [List.mem_filter, ascending_mem]
    refine and_congr_left fun waits => ?_
    obtain ⟨other, blocked⟩ := Option.isSome_iff_exists.mp waits
    exact iff_of_true (waiting_of_blocker blocked) (all worker other blocked)
  exact same.length_eq

end WaitGraph

end Contention

import Contention.Board
import Mathlib.Data.List.Nodup

namespace Contention

theorem team_nodup (count : Nat) : (team count).Nodup :=
  List.nodup_range.map fun _ _ same => congrArg Worker.index same

theorem mem_team {count : Nat} {worker : Worker} : worker ∈ team count ↔ worker.index < count := by
  simp only [team, List.mem_map, List.mem_range]
  constructor
  · rintro ⟨index, inside, rfl⟩
    exact inside
  · exact fun inside => ⟨worker.index, inside, rfl⟩

namespace Board

variable {board : Board} {now : Instant}

theorem mem_snapshots {snapshot : Snapshot} :
    snapshot ∈ board.snapshots now ↔
      ∃ worker record, board.record? worker = some record ∧
        record.snapshot worker now = snapshot := by
  simp only [snapshots, List.mem_filterMap, snapshot?, Option.map_eq_some_iff, mem_team]
  constructor
  · rintro ⟨worker, _, record, found, same⟩
    exact ⟨worker, record, found, same⟩
  · rintro ⟨worker, record, found, same⟩
    exact ⟨worker, (List.getElem?_eq_some_iff.mp found).1, record, found, same⟩

theorem snapshots_ascend (board : Board) (now : Instant) :
    (board.snapshots now).Pairwise fun earlier later =>
      earlier.worker.index < later.worker.index := by
  have ordered : (team board.size).Pairwise fun left right => left.index < right.index :=
    List.pairwise_map.mpr List.pairwise_lt_range
  refine List.pairwise_filterMap.mpr (ordered.imp fun {left right} below early seen late met => ?_)
  obtain ⟨_, _, rfl⟩ := Option.map_eq_some_iff.mp seen
  obtain ⟨_, _, rfl⟩ := Option.map_eq_some_iff.mp met
  exact below

theorem snapshots_sorted (board : Board) (now : Instant) :
    (board.snapshots now).Pairwise fun earlier later => earlier.worker ≤ later.worker :=
  (board.snapshots_ascend now).imp Nat.le_of_lt

theorem snapshots_distinct (board : Board) (now : Instant) :
    ((board.snapshots now).map (·.worker)).Nodup :=
  List.pairwise_map.mpr ((board.snapshots_ascend now).imp fun below same =>
    Nat.ne_of_lt below (congrArg Worker.index same))

end Board

end Contention

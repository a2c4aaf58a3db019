import Contention.Proofs.WaitGraph.Queues
import Contention.Workshop.Basic

namespace Contention

namespace Board

variable {board : Board} {worker : Worker} {resource : Resource} {now : Instant}

def names (board : Board) (resource : Resource) (worker : Worker) : Bool :=
  match board.record? worker with
  | none => false
  | some record => record.held.contains resource

theorem names_iff :
    board.names resource worker = true ↔
      ∃ record, board.record? worker = some record ∧ resource ∈ record.held.toList := by
  unfold names
  cases board.record? worker with
  | none => simp
  | some record => simp [Holding.contains_iff]

theorem claimants_filterMap (board : Board) (now : Instant) (resource : Resource)
    (workers : List Worker) :
    claimants (workers.filterMap (board.snapshot? · now)) resource =
      workers.filter (board.names resource) := by
  induction workers with
  | nil => rfl
  | cons worker rest ih =>
      unfold claimants at ih ⊢
      rw [List.filterMap_cons, List.filter_cons, ← ih]
      cases found : board.record? worker with
      | none =>
          have unseen : board.snapshot? worker now = none := by rw [snapshot?, found]; rfl
          simp only [unseen, names, found, Bool.false_eq_true, if_false]
      | some record =>
          have seen : board.snapshot? worker now = some (record.snapshot worker now) := by
            rw [snapshot?, found]
            rfl
          simp only [seen, names, found, List.filter_cons]
          change (if record.held.contains resource = true then _ else _ : List Snapshot).map _ = _
          cases record.held.contains resource <;> rfl

end Board

namespace Workshop

variable {shop : Workshop} {worker : Worker} {resource : Resource} {now : Instant}

theorem holder_eq (shop : Workshop) (now : Instant) (resource : Resource) :
    (shop.graph now).holder resource =
      (team shop.board.size).find? (shop.board.names resource) := by
  rw [graph, Board.snapshots, WaitGraph.holder_ofSnapshots, Board.claimants_filterMap,
    List.head?_filter]

theorem awaitedBy_eq (shop : Workshop) (now : Instant) (worker : Worker) :
    (shop.graph now).awaitedBy worker = (shop.board.record? worker).bind (·.awaiting) := by
  refine Option.ext fun resource => ?_
  have alike := requests_alike (shop.board.snapshots_distinct now) worker
  rw [graph, WaitGraph.awaitedBy_ofSnapshots, alike.getLast?_eq_some_iff, mem_requests,
    Option.bind_eq_some_iff]
  constructor
  · rintro ⟨_, member, rfl, awaiting⟩
    obtain ⟨other, record, found, rfl⟩ := Board.mem_snapshots.mp member
    exact ⟨record, found, awaiting⟩
  · rintro ⟨record, found, awaiting⟩
    exact ⟨_, Board.mem_snapshots.mpr ⟨worker, record, found, rfl⟩, rfl, awaiting⟩

theorem blocker_moment (shop : Workshop) (now later : Instant) (worker : Worker) :
    (shop.graph now).blocker worker = (shop.graph later).blocker worker := by
  simp only [WaitGraph.blocker, awaitedBy_eq, holder_eq]

theorem names_of_holder (found : (shop.graph now).holder resource = some worker) :
    shop.board.names resource worker = true := by
  rw [holder_eq] at found
  exact List.find?_some found

/-- A record that shows a resource is the one that is believed, if no other shows it. -/
theorem holder_eq_some (named : shop.board.names resource worker = true)
    (alone : ∀ other, shop.board.names resource other = true → other = worker) :
    (shop.graph now).holder resource = some worker := by
  obtain ⟨record, stored, _⟩ := Board.names_iff.mp named
  obtain ⟨inside, _⟩ := List.getElem?_eq_some_iff.mp stored
  have some : ((shop.graph now).holder resource).isSome = true := by
    rw [holder_eq, List.find?_isSome]
    exact ⟨worker, mem_team.mpr inside, named⟩
  obtain ⟨found, believed⟩ := Option.isSome_iff_exists.mp some
  rw [believed, alone found (names_of_holder believed)]

end Workshop

end Contention

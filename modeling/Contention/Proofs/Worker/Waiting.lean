import Contention.Proofs.Worker.Coherence
import Contention.Proofs.Workshop.Knots

namespace Contention

variable {σ : Type}

namespace System

variable {regime : Regime σ} {resources workers : Nat} {system : System σ}
  {worker other : Worker} {thread : Thread} {pair : Resource × Resource} {place : Site}
  {guard : Guard} {now : Instant}

def Exited (system : System σ) (worker : Worker) : Prop :=
  (system.thread? worker).map (·.stage) = some .exited

instance (system : System σ) (worker : Worker) : Decidable (system.Exited worker) :=
  inferInstanceAs (Decidable (_ = _))

theorem Placed.blocked (placed : system.Placed regime worker thread pair)
    (locking : system.shop.activity worker = .locking place) :
    ∃ turn, thread.stage = .recheck turn ∧ place = site (turn.of pair) ∧
      (system.shop.guardsOf worker).map (·.site) = ((Stage.take turn).owned pair).map site := by
  have allowed := placed.allowed
  have due := placed.due
  rw [locking] at allowed
  rw [Workshop.due_locking locking] at due
  cases stage : thread.stage with
  | recheck turn =>
      rw [stage, Stage.owned_recheck, List.map_append] at due
      obtain ⟨held, wanted⟩ := List.append_inj' due rfl
      cases wanted
      exact ⟨turn, rfl, rfl, held⟩
  | _ =>
      rw [stage] at allowed
      contradiction

theorem Placed.exited (placed : system.Placed regime worker thread pair)
    (stage : thread.stage = .exited) :
    system.shop.activity worker = .idle ∧ system.shop.guardsOf worker = [] := by
  have idle := placed.idle (by rw [stage]; rfl) (by rw [stage]; rfl)
  have sites := placed.sites idle
  rw [stage] at sites
  exact ⟨idle, List.map_eq_nil_iff.mp sites⟩

theorem Placed.cleared (placed : system.Placed regime worker thread pair)
    (stage : thread.stage = .exited) {record : Record}
    (found : system.shop.board.record? worker = some record) :
    record.held = .none ∧ record.awaiting = none := by
  obtain ⟨idle, none⟩ := placed.exited stage
  obtain ⟨shown, accurate⟩ := placed.truthful.accurate found
  rw [idle, none] at accurate
  obtain ⟨rfl, _⟩ := accurate.shows.resting trivial
  refine ⟨?_, accurate.awaiting⟩
  rw [Record.held, accurate.first, accurate.second]
  rfl

theorem Placed.exited_iff (placed : system.Placed regime worker thread pair) :
    system.Exited worker ↔ thread.stage = .exited := by
  rw [Exited, placed.found, Option.map_some, Option.some_inj]

theorem Staffed.pool (staffed : system.Staffed resources workers) : system.shop.OnePool :=
  Workshop.onePool_of_room staffed.room

theorem Coherent.truthful (coherent : system.Coherent regime resources workers)
    (onBoard : system.shop.OnBoard worker) : system.shop.Truthful worker := by
  obtain ⟨_, _, placed⟩ := coherent.placed worker (coherent.onBoard_iff.mp onBoard)
  exact placed.truthful

/-- A worker that waits for another is blocked on a resource whose guard the other
has. -/
theorem Coherent.blocked_of_blocker (coherent : system.Coherent regime resources workers)
    (waits : (system.shop.graph now).blocker worker = some other) :
    ∃ place, system.shop.activity worker = .locking place ∧
      ∃ guard ∈ system.shop.guardsOf other, guard.site = place := by
  obtain ⟨resource, awaited, holder, _⟩ := WaitGraph.blocker_eq_some_iff.mp waits
  obtain ⟨held, stored, _⟩ := Board.names_iff.mp (Workshop.names_of_holder holder)
  rw [Workshop.awaitedBy_eq] at awaited
  obtain ⟨record, found, _⟩ := Option.bind_eq_some_iff.mp awaited
  obtain ⟨_, _, locking, holds⟩ := (coherent.truthful (coherent.orderly.onBoard found)).blocked
    (coherent.truthful (coherent.orderly.onBoard stored)) coherent.orderly coherent.pool waits
  exact ⟨_, locking, holds⟩

/-- The other way round: a worker that is blocked is seen to wait, if who has what it
wants is at rest. -/
theorem Coherent.blocker_of_locking (coherent : system.Coherent regime resources workers)
    (locking : system.shop.activity worker = .locking place)
    (own : guard ∈ system.shop.guardsOf other) (held : guard.site = place)
    (rests : (system.shop.activity other).Resting) (now : Instant) :
    (system.shop.graph now).blocker worker = some other := by
  have onBoard := Workshop.onBoard_of_activity locking (by simp)
  have otherOnBoard := coherent.orderly.onBoard_of_guard own
  refine WaitGraph.blocker_eq_some_iff.mpr ⟨place.resource, ?_, ?_, ?_⟩
  · obtain ⟨record, shown, found, accurate⟩ := coherent.truthful onBoard
    rw [Workshop.awaitedBy_eq, found, Option.bind_some, accurate.awaiting, locking]
    rfl
  · have named := (coherent.truthful otherOnBoard).names_of_guard rests own
    rw [held] at named
    refine Workshop.holder_eq_some named fun third thirdNamed => ?_
    obtain ⟨record, found, _⟩ := Board.names_iff.mp thirdNamed
    obtain ⟨mine, mineOwn, mineSame⟩ :=
      (coherent.truthful (coherent.orderly.onBoard found)).guard_of_named coherent.orderly
        coherent.pool thirdNamed
    have same := coherent.pool place (coherent.orderly.inside worker place locking)
    exact coherent.orderly.guarded.owner_eq mineOwn own
      ((mineSame.trans same.symm).trans held.symm)
  · -- nobody takes a resource twice
    rintro rfl
    obtain ⟨thread, pair, placed⟩ := coherent.placed other (coherent.onBoard_iff.mp onBoard)
    obtain ⟨turn, _, rfl, sites⟩ := placed.blocked locking
    have among : site (turn.of pair) ∈ ((Stage.take turn).owned pair).map site :=
      sites ▸ held ▸ List.mem_map_of_mem own
    cases turn with
    | first => contradiction
    | second =>
        have same : pair.2 = pair.1 := congrArg Site.resource (List.mem_singleton.mp among)
        exact placed.routed.different same.symm

theorem Coherent.unexited_of_guard (coherent : system.Coherent regime resources workers)
    (live : guard ∈ system.shop.guards) :
    guard.taker.index < workers ∧ ¬ system.Exited guard.taker := by
  have member := coherent.onBoard_iff.mp (coherent.orderly.takers guard live)
  refine ⟨member, fun exited => ?_⟩
  obtain ⟨thread, pair, placed⟩ := coherent.placed guard.taker member
  obtain ⟨_, none⟩ := placed.exited (placed.exited_iff.mp exited)
  have own := Workshop.mem_guardsOf.mpr ⟨live, rfl⟩
  rw [none] at own
  contradiction

/-- A worker that has not exited and can take no step is blocked on a resource of
which another worker has the guard that has not exited either. -/
theorem Coherent.blocked_of_stuck (coherent : system.Coherent regime resources workers)
    (yields : system.Yields regime worker) (member : worker.index < workers)
    (unexited : ¬ system.Exited worker) (stuck : system.step regime worker = none) :
    ∃ place other guard, system.shop.activity worker = .locking place ∧ other.index < workers ∧
      ¬ system.Exited other ∧ guard ∈ system.shop.guardsOf other ∧ guard.site = place := by
  obtain ⟨thread, pair, placed⟩ := coherent.placed worker member
  have possible := placed.next coherent.orderly yields
  rw [System.after, stuck, Option.map_none] at possible
  cases possible with
  | exited idle stage => exact absurd (placed.exited_iff.mpr stage) unexited
  | blocked place locking held =>
      obtain ⟨guard, live, same⟩ := (coherent.orderly.guarded.held place).mp held
      obtain ⟨otherMember, otherUnexited⟩ := coherent.unexited_of_guard live
      exact ⟨place, guard.taker, guard, locking, otherMember, otherUnexited,
        Workshop.mem_guardsOf.mpr ⟨live, rfl⟩, same⟩

end System

end Contention

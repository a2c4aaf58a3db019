import Contention.Proofs.WaitGraph.Search
import Contention.Proofs.Workshop.Crew

namespace Contention.Crew

/-! A circular wait that the board shows is a deadlock, and it is there to stay: no
step of anybody else, no release, no hand-over to a waiter and no request to stop
can free a resource of it or change what its workers' records say. -/

open Contention.System (site)

variable {crew next later : Crew} {size : Nat} {worker : Worker} {row : List Worker} {now : Instant}

/-- The knot is still there: what the records of its workers say is the same, and
so is who waits for whom among them. -/
structure Stands (size : Nat) (row : List Worker) (before after : Crew) : Prop where
  knot : (after.shop.mend size).Knot row
  records : ∀ worker ∈ row,
    (after.shop.mend size).board.record? worker = (before.shop.mend size).board.record? worker
  blockers : ∀ worker ∈ row, ∀ now, ((after.shop.mend size).graph now).blocker worker =
    ((before.shop.mend size).graph now).blocker worker

theorem Stands.trans {first second third : Crew} (early : Stands size row first second)
    (late : Stands size row second third) : Stands size row first third where
  knot := late.knot
  records worker member := (late.records worker member).trans (early.records worker member)
  blockers worker member now :=
    (late.blockers worker member now).trans (early.blockers worker member now)

theorem Lawful.stands (lawful : crew.Lawful size) (knot : (crew.shop.mend size).Knot row)
    (act : crew.Act next) : Stands size row crew next := by
  have unchanged : ∀ {later : Crew}, later.shop.mend size = crew.shop.mend size →
      Stands size row crew later := by
    intro later same
    refine ⟨?_, ?_, ?_⟩ <;> rw [same]
    · exact knot
    · exact fun _ _ => rfl
    · exact fun _ _ _ => rfl
  cases lawful.upshot act with
  | nothing same => exact unchanged same
  | leave mover idle same => exact unchanged (by rw [same])
  | slot mover present sound able =>
      have onBoard := sound.frame.onBoard.mp (sound.truthful.onBoard sound.orderly)
      have truthful := lawful.present mover onBoard present
      have outside : mover ∉ row := by
        intro member
        obtain ⟨place, locking, _⟩ := knot mover member
        have held := knot.held lawful.orderly.guarded member locking
        rw [able place locking] at held
        contradiction
      refine ⟨knot.framed sound.frame outside, fun worker member => ?_, fun worker member now => ?_⟩
      · exact sound.frame.record? worker fun same => outside (same ▸ member)
      · exact knot.blocker_framed lawful.reliable sound truthful outside member
  | drop mover guard left own freed =>
      have outside : mover ∉ row := by
        intro member
        obtain ⟨place, locking, _⟩ := knot mover member
        have onBoard := lawful.orderly.onBoard_of_guard own
        rw [(lawful.gone mover onBoard left).idle] at locking
        contradiction
      refine ⟨?_, ?_, ?_⟩ <;> rw [freed]
      · exact knot.framed (lawful.orderly.frame_free own) outside
      · exact fun _ _ => rfl
      · exact fun _ _ _ => rfl

theorem stands_of_acts (lawful : crew.Lawful size) (knot : (crew.shop.mend size).Knot row)
    (onward : Relation.ReflTransGen Act crew later) :
    later.Lawful size ∧ Stands size row crew later := by
  induction onward with
  | refl => exact ⟨lawful, knot, fun _ _ => rfl, fun _ _ _ => rfl⟩
  | tail _ act ih =>
      obtain ⟨lawful, stands⟩ := ih
      exact ⟨lawful.act act, stands.trans (lawful.stands stands.knot act)⟩

theorem Lawful.inside (lawful : crew.Lawful size) {resource : Resource}
    (named : crew.shop.board.names resource worker = true) : resource.index < size := by
  rw [← Workshop.names_mend size] at named
  suffices contained : (crew.shop.mend size).Contains (site resource) from
    (lawful.contains_iff.mp contained).2
  obtain ⟨record, found, _⟩ := Board.names_iff.mp named
  rcases lawful.reliable.slots worker (lawful.orderly.onBoard found) with truthful | deserted
  · obtain ⟨guard, own, same⟩ := truthful.guard_of_named lawful.orderly lawful.pool named
    exact same ▸ lawful.orderly.contains (Workshop.mem_guardsOf.mp own).1
  · exact deserted.inside resource named

theorem Lawful.blocker_mend (lawful : crew.Lawful size) :
    ((crew.shop.mend size).graph now).blocker worker = (crew.shop.graph now).blocker worker :=
  Workshop.blocker_mend fun _ _ named => lawful.inside named

theorem Lawful.locking (lawful : crew.Lawful size) {place : Site}
    (locking : (crew.shop.mend size).activity worker = .locking place) :
    crew.shop.activity worker = .locking place ∧
      ∃ record, crew.shop.board.record? worker = some record ∧
        (crew.shop.mend size).board.record? worker = some record := by
  obtain ⟨mended, found, awaiting⟩ := lawful.reliable.awaiting_of_locking locking
  rw [Workshop.activity_mend] at locking
  rw [Workshop.record?_mend] at found ⊢
  obtain ⟨record, stored, rfl⟩ := Option.map_eq_some_iff.mp found
  constructor
  · cases busy : crew.shop.activity worker with
    | locking site =>
        rw [busy, Activity.mend] at locking
        split at locking
        · exact locking
        · contradiction
    | _ =>
        rw [busy] at locking
        contradiction
  · obtain ⟨known, _⟩ := Option.filter_eq_some_iff.mp awaiting
    have same : record.mend size = record := by
      have kept : record.awaiting.filter (fun resource => decide (resource.index < size)) =
          record.awaiting := awaiting.trans known.symm
      unfold Record.mend
      rw [kept]
    exact ⟨record, stored, by rw [stored, Option.map_some, same]⟩

/-- A circular wait on the board is a deadlock, and nothing that anybody does changes
that or even the records of its workers. -/
theorem deadlock_permanent {resources workers : Nat} {epoch : Instant}
    (fits : resources ≤ wordMax)
    (reached : Relation.ReflTransGen Act (fresh resources workers epoch) crew)
    (listed : row ∈ (crew.shop.graph now).cycles)
    (onward : Relation.ReflTransGen Act crew later) :
    (∀ moment, row ∈ (later.shop.graph moment).cycles) ∧ later.shop.Knot row ∧
      ∀ worker ∈ row, ¬ later.gone worker ∧ later.shop.advance worker = none ∧
        ∃ record, crew.shop.board.record? worker = some record ∧
          later.shop.board.record? worker = some record := by
  have lawful := lawful_of_acts fits reached
  have isCycle := WaitGraph.mem_cycles_iff.mp listed
  have mended : ((crew.shop.mend resources).graph now).IsCycle row :=
    isCycle.of_blocker fun _ _ => lawful.blocker_mend
  have knot := lawful.reliable.knot mended.toIsLoop
  obtain ⟨still, stands⟩ := stands_of_acts lawful knot onward
  refine ⟨fun moment => ?_, fun worker member => ?_, fun worker member => ?_⟩
  · refine WaitGraph.mem_cycles_iff.mpr (isCycle.of_blocker fun worker member => ?_)
    rw [later.shop.blocker_moment moment now, ← still.blocker_mend,
      stands.blockers worker member now, lawful.blocker_mend]
  · obtain ⟨place, locking, held⟩ := stands.knot worker member
    exact ⟨place, (still.locking locking).1, held⟩
  · obtain ⟨place, locking, _⟩ := stands.knot worker member
    obtain ⟨blocked, after, stored, same⟩ := still.locking locking
    refine ⟨fun left => ?_, ?_, after, ?_, stored⟩
    · have onBoard := Workshop.onBoard_of_activity locking (by simp)
      rw [(still.gone worker onBoard left).idle] at locking
      contradiction
    · exact Workshop.advance_of_held blocked (stands.knot.held still.orderly.guarded member locking)
    · obtain ⟨place, locking, _⟩ := knot worker member
      obtain ⟨_, before, found, mended⟩ := lawful.locking locking
      rw [stands.records worker member, mended] at same
      rw [found, same]

theorem acts_settle (crew : Crew) (worker : Worker) (fuel : Nat) (step : Workshop.Step) :
    Relation.ReflTransGen Act { crew with shop := step.shop }
      { crew with shop := (Workshop.settle worker fuel step).shop } := by
  have onward : ∀ shop step, shop.advance worker = some step →
      Act { crew with shop } { crew with shop := step.shop } :=
    fun shop step taken => @Act.advance { crew with shop } worker step taken
  exact (Workshop.settle_reaches onward fuel step).lift (fun shop => { crew with shop })
    fun _ _ act => act

def acquire (crew : Crew) (worker : Worker) (resource : Resource) : Crew :=
  { crew with shop := (crew.shop.acquire worker (site resource)).shop }

theorem acts_acquire (worker : Worker) (resource : Resource) (ready : crew.Ready worker) :
    Relation.ReflTransGen Act crew (crew.acquire worker resource) :=
  .head (.acquire worker resource ready) (crew.acts_settle worker Workshop.operationLength _)

def crossed : Crew :=
  ((((fresh 2 3 .origin).acquire ⟨0⟩ ⟨0⟩).acquire ⟨1⟩ ⟨1⟩).acquire ⟨0⟩ ⟨1⟩).acquire ⟨1⟩ ⟨0⟩

/-- Two workers wait for each other; a third asks for what there is not, then for
something that is held, and a stop is requested. -/
theorem deadlock_permanent_beside_others :
    ∃ crew later : Crew, Relation.ReflTransGen Act (fresh 2 3 .origin) crew ∧
      Relation.ReflTransGen Act crew later ∧ later.signals.stopped = true ∧
      later.shop.activity ⟨2⟩ = .locking (site ⟨0⟩) ∧
      (∀ moment, [⟨0⟩, ⟨1⟩] ∈ (later.shop.graph moment).cycles) ∧
      later.shop.Knot [⟨0⟩, ⟨1⟩] := by
  have first := acts_acquire ⟨0⟩ ⟨0⟩ (⟨by decide, id, by decide⟩ : (fresh 2 3 .origin).Ready ⟨0⟩)
  have second := first.trans (acts_acquire ⟨1⟩ ⟨1⟩ ⟨by decide, id, by decide⟩)
  have half := second.trans (acts_acquire ⟨0⟩ ⟨1⟩ ⟨by decide, id, by decide⟩)
  have closed := half.trans (acts_acquire ⟨1⟩ ⟨0⟩ ⟨by decide, id, by decide⟩)
  have failed := acts_acquire ⟨2⟩ ⟨5⟩ (⟨by decide, id, by decide⟩ : crossed.Ready ⟨2⟩)
  have asked := failed.trans (acts_acquire ⟨2⟩ ⟨0⟩ ⟨by decide, id, by decide⟩)
  have stopped := asked.tail (.stop .operator)
  have permanent := deadlock_permanent (by decide) closed
    (WaitGraph.mem_cycles_iff.mpr (WaitGraph.isCycle_pair (by decide) (by decide) (by decide) :
      (Workshop.graph _ .origin).IsCycle [⟨0⟩, ⟨1⟩])) stopped
  exact ⟨_, _, closed, stopped, by decide, by decide, permanent.1, permanent.2.1⟩

end Contention.Crew

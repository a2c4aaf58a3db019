import Contention.Proofs.Worker.Exclusion
import Contention.Proofs.Worker.Steady

namespace Contention.System

open Workshop (Frame)

variable {σ : Type} {regime : Regime σ} {resources workers : Nat}
  {system next later : System σ} {worker other : Worker} {thread : Thread}
  {pair : Resource × Resource} {record : Record} {move : Move}

def HasFallen (system : System σ) (worker : Worker) : Prop :=
  (system.thread? worker).map (·.stage.isCalm) = some false

instance (system : System σ) (worker : Worker) : Decidable (system.HasFallen worker) :=
  inferInstanceAs (Decidable (_ = _))

theorem hasFallen_iff :
    system.HasFallen worker ↔
      ∃ thread, system.thread? worker = some thread ∧ thread.stage.isCalm = false :=
  Option.map_eq_some_iff

/-- What is left of a worker: a record with both of its resources, and no guard once its thread
has ended. -/
structure Stranded (regime : Regime σ) (system : System σ) (worker : Worker) (record : Record) :
    Prop where
  stored : system.shop.board.record? worker = some record
  held : ∃ pair, route regime.mode regime.pairing system.resources worker = .ok pair ∧
    record.held = .two pair.1 pair.2
  gone : ∀ thread fault, system.thread? worker = some thread → thread.stage = .failed fault →
    system.shop.guardsOf worker = []

theorem Stranded.framed (stranded : system.Stranded regime other record)
    (apart : other ≠ worker) (frame : Frame system.shop next.shop worker)
    (threads : next.thread? other = system.thread? other) : next.Stranded regime other record := by
  obtain ⟨stored, held, gone⟩ := stranded
  refine ⟨(frame.record? other apart).trans stored, ?_, ?_⟩
  · rwa [resources_eq_room, frame.room, ← resources_eq_room]
  · rw [threads, frame.guardsOf other apart]
    exact gone

theorem Stranded.of_same (stranded : system.Stranded regime worker record)
    (shop : next.shop = system.shop) (threads : next.threads = system.threads) :
    next.Stranded regime worker record := by
  obtain ⟨stored, held, gone⟩ := stranded
  refine ⟨shop ▸ stored, ?_, ?_⟩
  · rwa [resources_eq_room, shop, ← resources_eq_room]
  · rw [thread?, threads, shop]
    exact gone

theorem Placed.stranded (placed : system.Placed regime worker thread pair)
    (stops : ¬ system.Yields regime worker)
    (stepped : system.after regime (.step worker) = some next) :
    ∃ record, next.Stranded regime worker record := by
  obtain ⟨_, ⟨done, stage⟩, request, shared, moved, ⟨fault, unwinding⟩, ended⟩ := placed.falls stops
  cases stepped.symm.trans ended
  obtain ⟨record, stored, held⟩ := placed.held_inside stage
  refine ⟨record, stored, ⟨pair, placed.route, held⟩, fun now other found failed => ?_⟩
  rw [thread?_turned placed.found, if_pos rfl] at found
  cases found
  rw [unwinding] at failed
  contradiction

theorem Stranded.unwinds (stranded : system.Stranded regime worker record)
    (steady : system.Steady regime resources workers) (fallen : system.Fallen worker)
    (stepped : system.after regime (.step worker) = some next) :
    next.HasFallen worker ∧ next.Stranded regime worker record := by
  obtain ⟨stored, ⟨pair, routed, held⟩, gone⟩ := stranded
  obtain ⟨thread, found, fell⟩ := fallen.thread
  rcases fallen.unwinds stepped with ⟨moved, still, rfl, cleared⟩ | ⟨guard, own, rfl⟩
  · refine ⟨hasFallen_iff.mpr ⟨moved, (thread?_turned found).trans (if_pos rfl), still⟩, stored,
      ⟨pair, routed, held⟩, fun _ _ _ _ => ?_⟩
    rcases cleared with cleared | ⟨fault, astray⟩
    · exact cleared
    · rw [route, astray] at routed
      contradiction
  · refine ⟨hasFallen_iff.mpr ⟨thread, found, fell⟩, stored, ⟨pair, ?_, held⟩,
      fun _ _ known failed => ?_⟩
    · have room := (steady.orderly.frame_free own).room 0
      rw [← resources_eq_room] at room
      rwa [resources_eq_room, room]
    · rw [gone _ _ known failed] at own
      contradiction

theorem Placed.not_fallen (placed : system.Placed regime worker thread pair) :
    ¬ system.HasFallen worker := by
  intro fallen
  obtain ⟨same, found, fell⟩ := hasFallen_iff.mp fallen
  cases placed.found.symm.trans found
  rw [placed.calm] at fell
  contradiction

theorem Steady.fallen_of_hasFallen (steady : system.Steady regime resources workers)
    (fallen : system.HasFallen worker) : system.Fallen worker := by
  obtain ⟨thread, found, _⟩ := hasFallen_iff.mp fallen
  rcases steady.stands worker (steady.member_of_thread found) with ⟨_, _, placed⟩ | fell
  · exact absurd fallen placed.not_fallen
  · exact fell

theorem Stranded.after (stranded : system.Stranded regime worker record)
    (steady : system.Steady regime resources workers) (fallen : system.HasFallen worker)
    (moved : system.after regime move = some next) :
    next.HasFallen worker ∧ next.Stranded regime worker record := by
  cases move with
  | step mover =>
      by_cases own : worker = mover
      · cases own
        exact stranded.unwinds steady (steady.fallen_of_hasFallen fallen) moved
      · have passes := steady.passes moved
        have threads := passes.threads worker own
        refine ⟨?_, stranded.framed own passes.frame threads⟩
        rwa [HasFallen, threads]
  | stop reason | wait nanos =>
      cases moved
      exact ⟨fallen, stranded.of_same rfl rfl⟩

structure Littered (regime : Regime σ) (resources workers : Nat) (system : System σ) : Prop where
  steady : system.Steady regime resources workers
  left : ∀ worker, system.HasFallen worker → ∃ record, system.Stranded regime worker record

theorem Littered.after (littered : system.Littered regime resources workers)
    (moved : system.after regime move = some next) : next.Littered regime resources workers := by
  obtain ⟨steady, left⟩ := littered
  refine ⟨steady.after moved, fun worker fallen => ?_⟩
  have kept (before : system.HasFallen worker) : ∃ record, next.Stranded regime worker record := by
    obtain ⟨record, stranded⟩ := left worker before
    exact ⟨record, (stranded.after steady before moved).2⟩
  cases move with
  | stop reason | wait nanos =>
      cases moved
      exact kept fallen
  | step mover =>
      by_cases own : worker = mover
      · cases own
        rcases steady.stands worker (steady.member moved) with ⟨_, _, placed⟩ | ⟨fell, _⟩
        · -- Unless its critical section has come to an end in this step, it has not fallen.
          by_cases yields : system.Yields regime worker
          · have possible := placed.next steady.orderly yields
            rw [moved] at possible
            obtain ⟨_, landed⟩ := (possible.lands placed steady.orderly).placed
            exact absurd fallen landed.not_fallen
          · exact placed.stranded yields moved
        · exact kept (hasFallen_iff.mpr fell)
      · refine kept ?_
        rwa [HasFallen, ← (steady.passes moved).threads worker own]

theorem littered_fresh (sized : Sized resources workers) (seed : UInt64) (shared : σ)
    (clock : Instant) :
    (fresh resources workers seed shared clock).Littered regime resources workers where
  steady := (coherent_fresh regime sized seed shared clock).steady
  left worker fallen := by
    obtain ⟨thread, found, fell⟩ := hasFallen_iff.mp fallen
    obtain ⟨index, _, rfl⟩ := List.mem_map.mp (List.mem_of_getElem? found)
    contradiction

theorem Steady.guard_or_fallen {resource : Resource}
    (steady : system.Steady regime resources workers)
    (named : system.shop.board.names resource worker = true) :
    (∃ guard ∈ system.shop.guardsOf worker, guard.site = site resource) ∨
      system.HasFallen worker := by
  obtain ⟨record, stored, _⟩ := Board.names_iff.mp named
  have onBoard := steady.orderly.onBoard stored
  rw [Workshop.OnBoard, steady.slots] at onBoard
  rcases steady.stands worker onBoard with ⟨_, _, placed⟩ | ⟨fell, _⟩
  · exact .inl (placed.truthful.guard_of_named steady.orderly steady.pool named)
  · exact .inr (hasFallen_iff.mpr fell)

/-- Two records name the same resource only after one of the workers has fallen, whose own stays
as it was.  All others that have ended hold nothing on record. -/
theorem records_outlive_falls {seed : UInt64} {shared : σ} {clock : Instant}
    (sized : Sized resources workers)
    (reached : Reachable regime (fresh resources workers seed shared clock) system) :
    (∀ left right resource, left ≠ right → system.shop.board.names resource left = true →
      system.shop.board.names resource right = true →
      system.HasFallen left ∨ system.HasFallen right) ∧
    (∀ worker, system.Exited worker → ∃ record,
      system.shop.board.record? worker = some record ∧ record.held = .none) ∧
    (∀ worker, system.HasFallen worker → ∃ record pair,
      route regime.mode regime.pairing resources worker = .ok pair ∧
      record.held = .two pair.1 pair.2 ∧
      ∀ later, Reachable regime system later →
        later.HasFallen worker ∧ later.shop.board.record? worker = some record) ∧
    (∀ worker thread fault, system.thread? worker = some thread → thread.stage = .failed fault →
      system.shop.guardsOf worker = []) := by
  obtain ⟨moves, found⟩ := reached
  have littered := run_invariant (Littered regime resources workers)
    (fun _ _ _ littered moved => littered.after moved) found
    (littered_fresh sized seed shared clock)
  have steady := littered.steady
  refine ⟨fun left right resource apart named again => ?_, fun worker exited => ?_,
    fun worker fallen => ?_, fun worker thread fault known failed => ?_⟩
  · rcases steady.guard_or_fallen named with ⟨guard, own, same⟩ | fallen
    · rcases steady.guard_or_fallen again with ⟨other, theirs, equal⟩ | fallen
      · exact absurd (steady.orderly.guarded.owner_eq own theirs (same.trans equal.symm)) apart
      · exact .inr fallen
    · exact .inl fallen
  · obtain ⟨thread, known, stage⟩ := Option.map_eq_some_iff.mp exited
    obtain ⟨pair, placed⟩ := steady.placed_of_calm known (by rw [stage]; rfl)
    obtain ⟨record, _, stored, _⟩ := placed.truthful
    exact ⟨record, stored, (placed.cleared stage stored).1⟩
  · obtain ⟨record, stranded⟩ := littered.left worker fallen
    obtain ⟨pair, routed, held⟩ := stranded.held
    rw [steady.resources_eq] at routed
    refine ⟨record, pair, routed, held, fun later reached => ?_⟩
    obtain ⟨_, still, kept⟩ := reached.induct
      (fun later => later.Steady regime resources workers ∧ later.HasFallen worker ∧
        later.Stranded regime worker record)
      (fun _ _ _ _ ⟨steady, fallen, stranded⟩ moved =>
        ⟨steady.after moved, stranded.after steady fallen moved⟩) ⟨steady, fallen, stranded⟩
    exact ⟨still, kept.stored⟩
  · obtain ⟨record, stranded⟩ :=
      littered.left worker (hasFallen_iff.mpr ⟨thread, known, by rw [failed]; rfl⟩)
    exact stranded.gone thread fault known failed

/-- The critical section of the first worker fails at once, those of the others end at once. -/
def mishap : Regime Unit where
  mode := .totalOrder
  pairing := .paired
  workload := { think := .zero, gap := .zero, work := .zero, rest := .zero }
  criticalSection := {
    script worker _ := [fun shared generator => {
      shared
      generator
      fault := if worker.index = 0 then some (.sectionFailed "section failed") else none }] }

/-- One worker has fallen and its thread has ended when another is in its critical section; the
records of both name both resources. -/
theorem records_outlive_falls_beside_a_successor :
    ∃ system record, Reachable mishap (fresh 2 2 7 () .origin) system ∧
      system.hasEnded ⟨0⟩ = true ∧ system.shop.guardsOf ⟨0⟩ = [] ∧
      system.shop.board.record? ⟨0⟩ = some record ∧ record.held = .two ⟨0⟩ ⟨1⟩ ∧
      (∀ later, Reachable mishap system later →
        later.shop.board.record? ⟨0⟩ = some record) ∧
      system.shop.board.names ⟨0⟩ ⟨0⟩ = true ∧ system.shop.board.names ⟨0⟩ ⟨1⟩ = true ∧
      ¬ system.HasFallen ⟨1⟩ := by
  have moved : ((fresh 2 2 7 () .origin).run mishap
      (List.replicate 18 (.step ⟨0⟩) ++ List.replicate 14 (.step ⟨1⟩))).map (fun system =>
        ((system.thread? ⟨0⟩).map (·.stage), system.shop.board.names ⟨0⟩ ⟨0⟩,
          system.shop.board.names ⟨0⟩ ⟨1⟩, decide (system.HasFallen ⟨1⟩))) =
      some (some (.failed (.sectionFailed "section failed")), true, true, false) := by
    decide +kernel
  obtain ⟨system, ran, seen⟩ := Option.map_eq_some_iff.mp moved
  simp only [Prod.mk.injEq, decide_eq_false_iff_not] at seen
  obtain ⟨stage, named, again, standing⟩ := seen
  obtain ⟨thread, found, failed⟩ := Option.map_eq_some_iff.mp stage
  obtain ⟨clash, _, left, gone⟩ :=
    records_outlive_falls ⟨by decide, by decide, by decide⟩ ⟨_, ran⟩
  have fallen := (clash ⟨0⟩ ⟨1⟩ ⟨0⟩ nofun named again).resolve_right standing
  obtain ⟨record, pair, routed, held, lasting⟩ := left ⟨0⟩ fallen
  cases routed
  refine ⟨system, record, ⟨_, ran⟩, ?_, gone ⟨0⟩ thread _ found failed,
    (lasting system (.refl ..)).2, held, fun later reached => (lasting later reached).2, named,
    again, standing⟩
  rw [hasEnded, found]
  simp only [Thread.hasEnded, failed]

end Contention.System

import Contention.Proofs.Worker.Accounts
import Contention.Proofs.Worker.Exclusion

namespace Contention

/-- The count that a stage carries to the end of its cycle. -/
def Stage.carried : Stage → Option Nat
  | .total number => some number
  | .give _ (.rest number) => some number
  | .rest number => some number
  | _ => none

def Thread.tally (thread : Thread) : Nat := thread.stage.carried.getD thread.completed

/-- One for a section that is begun and on no record yet. -/
def Stage.begun : Stage → Nat
  | .inside (_ + 1) => 1
  | .count => 1
  | _ => 0

namespace System

variable {σ : Type} {regime : Regime σ} {resources workers : Nat} {system next : System σ}
  {worker : Worker} {thread moved : Thread} {pair : Resource × Resource} {shop : Workshop}
  {signals : Signals} {shared : σ} {past : List (Resource × Resource)}

/-- The pair for which a worker's next step begins its critical section, if it does. -/
def sectionBegun (regime : Regime σ) (worker : Worker) (system : System σ) :
    List (Resource × Resource) :=
  match system.thread? worker, route regime.mode regime.pairing system.resources worker with
  | some thread, .ok pair => if thread.stage = .inside 0 then [pair] else []
  | _, _ => []

theorem Placed.sectionBegun_eq (placed : system.Placed regime worker thread pair) :
    system.sectionBegun regime worker =
      List.replicate (if thread.stage = .inside 0 then 1 else 0) pair := by
  simp only [sectionBegun, placed.found, placed.route]
  split <;> rfl

theorem Looped.tally (looped : system.Looped regime worker thread pair shop signals shared moved)
    (counted : system.shop.completed worker = thread.tally) :
    shop.completed worker = moved.tally := by
  unfold Thread.tally at counted ⊢
  cases looped with
  | check stage =>
      rw [stage] at counted
      cases system.signals.stopped <;> exact counted
  | take turn stage =>
      rw [stage] at counted
      exact (Workshop.completed_beginAcquire _ _ _).trans counted
  | recheck turn stage =>
      rw [stage] at counted
      cases system.signals.stopped <;> cases turn <;> exact counted
  | count record stage found => exact Workshop.completed_complete found _
  | give turn onward guard stage =>
      rw [stage] at counted
      rw [Workshop.completed_beginRelease]
      cases turn <;> cases onward <;> exact counted
  | start stage | think _ stage | gap _ stage | inside _ _ stage | finish _ stage | total _ stage
  | rest _ _ stage | leave stage =>
      rw [stage] at counted
      exact counted

theorem Looped.begun
    (looped : system.Looped regime worker thread pair shop signals shared moved) :
    shop.completed worker + moved.stage.begun =
      system.shop.completed worker + thread.stage.begun +
        if thread.stage = .inside 0 then 1 else 0 := by
  cases looped with
  | check stage =>
      rw [stage]
      cases system.signals.stopped <;> rfl
  | take turn stage =>
      rw [stage, Workshop.completed_beginAcquire]
      rfl
  | recheck turn stage =>
      rw [stage]
      cases system.signals.stopped <;> cases turn <;> rfl
  | inside done act stage =>
      rw [stage]
      cases done <;> rfl
  | finish done stage =>
      rw [stage]
      cases done <;> rfl
  | count record stage found =>
      rw [stage, Workshop.completed_complete found, Workshop.completed_eq found]
      rfl
  | give turn onward guard stage =>
      rw [stage, Workshop.completed_beginRelease]
      cases turn <;> cases onward <;> rfl
  | start stage | think _ stage | gap _ stage | total _ stage | rest _ _ stage | leave stage =>
      rw [stage]
      rfl

/-- A worker that has not fallen has run its section for its pair each time, as often as its
record counts, but for one time that is not counted yet. -/
structure InStep (regime : Regime σ) (resources workers : Nat) (worker : Worker)
    (pair : Resource × Resource) (system : System σ) (past : List (Resource × Resource)) :
    Prop where
  steady : system.Steady regime resources workers
  counted : ∀ thread, system.thread? worker = some thread → thread.stage.isCalm = true →
    system.shop.completed worker = thread.tally ∧
      past = List.replicate (system.shop.completed worker + thread.stage.begun) pair

theorem InStep.step (inStep : InStep regime resources workers worker pair system past)
    (route : route regime.mode regime.pairing resources worker = .ok pair)
    (stepped : system.after regime (.step worker) = some next) :
    InStep regime resources workers worker pair next
      (past ++ system.sectionBegun regime worker) := by
  have steady := inStep.steady
  obtain ⟨thread, moved, found, landed, turned⟩ := (steady.passes stepped).turned
  refine ⟨steady.step stepped, fun same again calm => ?_⟩
  cases landed.symm.trans again
  have counted := inStep.counted thread found
  cases turned with
  | slot samePair placed advanced same =>
      have busy : thread.stage ≠ .inside 0 := by
        intro stage
        have leads := advanced.leads
        rw [placed.idle_inside stage] at leads
        cases leads
      obtain ⟨tally, rfl⟩ := counted placed.calm
      rw [placed.sectionBegun_eq, if_neg busy, advanced.completed, same]
      exact ⟨tally, List.append_nil _⟩
  | loop samePair placed idle looped =>
      have own := placed.route
      rw [steady.resources_eq, route] at own
      cases own
      obtain ⟨tally, rfl⟩ := counted placed.calm
      refine ⟨looped.tally tally, ?_⟩
      rw [placed.sectionBegun_eq, List.replicate_append_replicate, looped.begun]
  | down request before fell =>
      rw [fell] at calm
      contradiction

theorem InStep.foreign (inStep : InStep regime resources workers worker pair system past)
    {move : Move} (foreign : move.isBy worker = false)
    (moved : system.after regime move = some next) :
    InStep regime resources workers worker pair next past := by
  obtain ⟨threads, _, records⟩ := inStep.steady.foreign foreign moved
  refine ⟨inStep.steady.after moved, fun thread found => ?_⟩
  rw [Workshop.completed, records]
  exact inStep.counted thread (threads ▸ found)

theorem inStep_fresh (sized : Sized resources workers) (seed : UInt64) (shared : σ)
    (clock : Instant) (member : worker.index < workers) (pair : Resource × Resource) :
    InStep regime resources workers worker pair (fresh resources workers seed shared clock) [] where
  steady := (coherent_fresh regime sized seed shared clock).steady
  counted := by
    intro thread found _
    obtain ⟨index, _, rfl⟩ := List.mem_map.mp (List.mem_of_getElem? found)
    have blank : (fresh resources workers seed shared clock).shop.completed worker = 0 :=
      completed_fresh seed shared clock member
    rw [blank]
    exact ⟨rfl, rfl⟩

/-- A worker that has exited has nothing on its record, no guard and no lock.  It returns what
its record counts, and that is how often it has run its section, for the same pair every
time. -/
theorem exit_contract {seed : UInt64} {start : σ} {clock : Instant} {moves : List Move}
    (sized : Sized resources workers)
    (ran : (fresh resources workers seed start clock).run regime moves = some system)
    (found : system.thread? worker = some thread) (returned : thread.stage = .exited) :
    ∃ record pair, system.shop.board.record? worker = some record ∧
      record.held = .none ∧ record.awaiting = none ∧
      system.shop.guardsOf worker = [] ∧
      (∀ place, system.shop.isHeld place = true →
        ∃ guard ∈ system.shop.guards, guard.site = place ∧ guard.taker ≠ worker) ∧
      record.completed = thread.completed ∧
      route regime.mode regime.pairing resources worker = .ok pair ∧
      (fresh resources workers seed start clock).history regime worker
          (sectionBegun regime worker) moves = List.replicate thread.completed pair ∧
      ∀ before former done,
        Reachable regime (fresh resources workers seed start clock) before →
        before.thread? worker = some former → former.stage = .inside done →
        before.step regime worker = some (before.sectionStep worker former
          (regime.criticalSection.script worker pair) done) := by
  have steady := reachable_steady sized ⟨moves, ran⟩
  obtain ⟨pair, placed⟩ := steady.placed_of_calm found (by rw [returned]; rfl)
  have member := steady.member_of_thread found
  have route := placed.route
  rw [steady.resources_eq] at route
  have inStep := run_recorded (InStep regime resources workers worker pair)
    (fun _ _ _ inStep stepped => inStep.step route stepped)
    (fun _ _ _ _ inStep foreign moved => inStep.foreign foreign moved) ran
    (inStep_fresh sized seed start clock member pair)
  obtain ⟨counted, sections⟩ := inStep.counted thread found placed.calm
  obtain ⟨record, shown, stored, _⟩ := placed.truthful
  obtain ⟨held, awaiting⟩ := placed.cleared returned stored
  obtain ⟨_, none⟩ := placed.exited returned
  rw [Thread.tally, returned] at counted
  rw [counted, returned] at sections
  rw [Workshop.completed_eq stored] at counted
  refine ⟨record, pair, stored, held, awaiting, none, ?_, counted, route, sections, ?_⟩
  · intro place locked
    obtain ⟨guard, live, same⟩ := (steady.orderly.guarded.held place).mp locked
    refine ⟨guard, live, same, fun taken => ?_⟩
    have own := Workshop.mem_guardsOf.mpr ⟨live, taken⟩
    rw [none] at own
    contradiction
  · intro before former done reached known stage
    have earlier := reachable_steady sized reached
    obtain ⟨formerPair, formerPlaced⟩ :=
      earlier.placed_of_calm known (by rw [stage]; rfl)
    have formerRoute := formerPlaced.route
    rw [earlier.resources_eq, route] at formerRoute
    cases formerRoute
    exact formerPlaced.step_inside stage

/-- A worker completes one cycle, begins another, is blocked in it when a stop is requested,
and gives it up as soon as it gets what it waits for. -/
theorem exit_contract_after_giving_up :
    ∃ moves system thread,
      (fresh 2 2 7 () .origin).run (.restless .totalOrder .paired) moves = some system ∧
      system.thread? ⟨0⟩ = some thread ∧ thread.stage = .exited ∧ thread.completed = 1 ∧
      (∃ record, system.shop.board.record? ⟨0⟩ = some record ∧ record.held = .none ∧
        record.awaiting = none ∧ record.completed = 1) ∧
      (fresh 2 2 7 () .origin).history (.restless .totalOrder .paired) ⟨0⟩
        (sectionBegun (.restless .totalOrder .paired) ⟨0⟩) moves = [(⟨0⟩, ⟨1⟩)] := by
  have moved : ((fresh 2 2 7 () .origin).run (.restless .totalOrder .paired)
      (List.replicate 24 (.step ⟨0⟩) ++ List.replicate 7 (.step ⟨1⟩) ++
        List.replicate 3 (.step ⟨0⟩) ++ [.stop .operator] ++ List.replicate 4 (.step ⟨1⟩) ++
        List.replicate 8 (.step ⟨0⟩))).bind (fun system => (system.thread? ⟨0⟩).map fun thread =>
          (thread.stage, thread.completed)) = some (.exited, 1) := by
    decide +kernel
  obtain ⟨system, ran, ended⟩ := Option.bind_eq_some_iff.mp moved
  obtain ⟨thread, found, seen⟩ := Option.map_eq_some_iff.mp ended
  simp only [Prod.mk.injEq] at seen
  obtain ⟨stage, completed⟩ := seen
  obtain ⟨record, pair, stored, held, awaiting, _, _, counted, routed, sections, _⟩ :=
    exit_contract ⟨by decide, by decide, by decide⟩ ran found stage
  cases routed
  rw [completed] at counted sections
  exact ⟨_, system, thread, ran, found, stage, completed,
    ⟨record, stored, held, awaiting, counted⟩, sections⟩

end System

end Contention

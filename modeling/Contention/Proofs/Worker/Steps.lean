import Contention.Proofs.Delay
import Contention.Proofs.Worker.Positions
import Contention.Proofs.Worker.Runs

namespace Contention

variable {σ : Type}

/-- Critical sections that always come to their end. -/
def Regime.Returns (regime : Regime σ) : Prop :=
  ∀ worker pair, ∀ act ∈ regime.criticalSection.script worker pair, ∀ shared generator,
    (act shared generator).fault = none

theorem returns_of_sleep {regime : Regime σ} {range : Delay}
    (sleeps : regime.criticalSection = .sleep range) : regime.Returns := by
  intro worker pair act member shared generator
  rw [sleeps] at member
  cases List.mem_singleton.mp member
  simp only [Section.sleepStep, Section.drawPause, Delay.draw_eq_ok]

def Regime.restless (mode : Mode) (pairing : Pairing) : Regime Unit where
  mode := mode
  pairing := pairing
  workload := { think := .zero, gap := .zero, work := .zero, rest := .zero }
  criticalSection := .sleep .zero

def Signals.asked (signals : Signals) : Option EndReason → Signals
  | none => signals
  | some reason => (signals.halt reason).signals

theorem Signals.total_halt (signals : Signals) (reason : EndReason) :
    (signals.halt reason).signals.total = signals.total := by
  unfold halt
  cases signals.reason <;> rfl

theorem Signals.stopped_halt {signals : Signals} (stopped : signals.stopped = true)
    (reason : EndReason) : (signals.halt reason).signals.stopped = true := by
  unfold halt
  cases signals.reason with
  | none => rfl
  | some _ => exact stopped

theorem Signals.total_asked (signals : Signals) (request : Option EndReason) :
    (signals.asked request).total = signals.total := by
  cases request with
  | none => rfl
  | some reason => exact total_halt signals reason

theorem Signals.stopped_asked {signals : Signals} (stopped : signals.stopped = true)
    (request : Option EndReason) : (signals.asked request).stopped = true := by
  cases request with
  | none => exact stopped
  | some reason => exact stopped_halt stopped reason

def Turn.onward : Turn → Stage
  | .first => .gap
  | .second => .inside 0

def Turn.backward : Turn → Onward → Stage
  | .second, onward => .give .first onward
  | .first, .leave => .leave
  | .first, .rest count => .rest count

/-- What a worker holds, oldest first, when its slot is idle. -/
def Stage.owned (pair : Resource × Resource) : Stage → List Resource
  | .take .second => [pair.1]
  | .recheck .first => [pair.1]
  | .recheck .second => [pair.1, pair.2]
  | .gap => [pair.1]
  | .inside _ => [pair.1, pair.2]
  | .count => [pair.1, pair.2]
  | .total _ => [pair.1, pair.2]
  | .give .first _ => [pair.1]
  | .give .second _ => [pair.1, pair.2]
  | _ => []

def Stage.hasTaken : Stage → Bool
  | .recheck _ => true
  | _ => false

def Stage.hasGiven : Stage → Bool
  | .give .first _ => true
  | .rest _ => true
  | .leave => true
  | _ => false

def Stage.isCalm : Stage → Bool
  | .unwind _ => false
  | .failed _ => false
  | _ => true

/-- What a slot may be in the middle of, by the stage that its worker has gone on to. -/
def Stage.allows (stage : Stage) : Activity → Bool
  | .idle => stage.isCalm
  | .locking _ => stage.hasTaken
  | .recording _ => stage.hasTaken
  | .settling _ => stage.hasTaken
  | .shifting _ => stage.hasGiven
  | .unlocking _ => stage.hasGiven

namespace System

variable {regime : Regime σ} {system : System σ} {worker other : Worker} {thread : Thread}
  {chosen pair : Resource × Resource}

/-- What the loop of a worker with an idle slot comes to, at each of its stages. -/
inductive LoopStep (regime : Regime σ) (system : System σ) (worker : Worker) (thread : Thread)
    (chosen pair : Resource × Resource) : Option (Step σ) → Prop
  | start (stage : thread.stage = .start) :
      LoopStep regime system worker thread chosen pair (some {
        system := system.setThread worker { thread with stage := .check }
        effects := [.log (startedEvent regime chosen)] })
  | check (stage : thread.stage = .check) :
      LoopStep regime system worker thread chosen pair (some {
        system := system.setThread worker
          { thread with stage := if system.signals.stopped then .leave else .think } })
  | think (stage : thread.stage = .think) :
      LoopStep regime system worker thread chosen pair (some
        (system.pauseStep worker thread regime.workload.think
          fun thread => { thread with stage := .take .first }))
  | take (turn : Turn) (stage : thread.stage = .take turn) :
      LoopStep regime system worker thread chosen pair (some
        (system.ofShopStep worker { thread with stage := .recheck turn }
          (system.shop.beginAcquire worker (site (turn.of pair)))))
  | recheck (turn : Turn) (stage : thread.stage = .recheck turn) :
      LoopStep regime system worker thread chosen pair (some {
        system := system.setThread worker
          { thread with
            stage := if system.signals.stopped then .give turn .leave else turn.onward } })
  | gap (stage : thread.stage = .gap) :
      LoopStep regime system worker thread chosen pair (some
        (system.pauseStep worker thread regime.workload.gap
          fun thread => { thread with stage := .take .second }))
  | inside (done : Nat) (stage : thread.stage = .inside done) :
      LoopStep regime system worker thread chosen pair (some
        (system.sectionStep worker thread (regime.criticalSection.script worker pair) done))
  | count (stage : thread.stage = .count) :
      LoopStep regime system worker thread chosen pair (some {
        system := { system with shop := system.shop.complete worker system.clock }.setThread worker
          { thread with
            stage := .total ((((system.shop.complete worker system.clock).board.record? worker).map
              Record.completed).getD 0) } })
  | total (count : Nat) (stage : thread.stage = .total count) :
      LoopStep regime system worker thread chosen pair (some {
        system := { system with signals := system.signals.record }.setThread worker
          { thread with stage := .give .second (.rest count) }
        effects := [.log (cycleEvent count system.signals.record.total)] })
  | give (turn : Turn) (onward : Onward) (guard : Guard) (stage : thread.stage = .give turn onward)
      (found : system.shop.guardFor? worker (turn.of pair) = some guard) :
      LoopStep regime system worker thread chosen pair (some
        (system.ofShopStep worker { thread with stage := turn.backward onward }
          (system.shop.beginRelease worker guard)))
  | lost (turn : Turn) (onward : Onward) (stage : thread.stage = .give turn onward)
      (missing : system.shop.guardFor? worker (turn.of pair) = none) :
      LoopStep regime system worker thread chosen pair none
  | rest (count : Nat) (stage : thread.stage = .rest count) :
      LoopStep regime system worker thread chosen pair (some
        (system.pauseStep worker thread regime.workload.rest
          fun thread => { thread with stage := .check, completed := count }))
  | leave (stage : thread.stage = .leave) :
      LoopStep regime system worker thread chosen pair (some {
        system := system.setThread worker { thread with stage := .exited }
        effects := [.log (exitingEvent thread.completed)] })
  | drop (fault : Fault) (guard : Guard) (stage : thread.stage = .unwind fault)
      (last : (system.shop.guardsOf worker).getLast? = some guard) :
      LoopStep regime system worker thread chosen pair (some {
        system := { system with shop := system.shop.free guard } })
  | fail (fault : Fault) (stage : thread.stage = .unwind fault)
      (dropped : (system.shop.guardsOf worker).getLast? = none) :
      LoopStep regime system worker thread chosen pair (some {
        system := system.setThread worker { thread with stage := .failed fault } })
  | exited (stage : thread.stage = .exited) :
      LoopStep regime system worker thread chosen pair none
  | failed (fault : Fault) (stage : thread.stage = .failed fault) :
      LoopStep regime system worker thread chosen pair none

theorem loopStep_cases (regime : Regime σ) (system : System σ) (worker : Worker) (thread : Thread)
    (chosen pair : Resource × Resource) :
    LoopStep regime system worker thread chosen pair
      (loopStep regime system worker thread chosen pair) := by
  cases stage : thread.stage with
  | start =>
      simp only [loopStep, stage]
      exact .start stage
  | check =>
      simp only [loopStep, stage]
      exact .check stage
  | think =>
      simp only [loopStep, stage]
      exact .think stage
  | take turn =>
      simp only [loopStep, stage]
      exact .take turn stage
  | recheck turn =>
      simp only [loopStep, stage]
      cases turn <;> exact .recheck _ stage
  | gap =>
      simp only [loopStep, stage]
      exact .gap stage
  | inside done =>
      simp only [loopStep, stage]
      exact .inside done stage
  | count =>
      simp only [loopStep, stage]
      exact .count stage
  | total count =>
      simp only [loopStep, stage]
      exact .total count stage
  | give turn onward =>
      cases found : system.shop.guardFor? worker (turn.of pair) with
      | none =>
          simp only [loopStep, stage, found]
          exact .lost turn onward stage found
      | some guard =>
          simp only [loopStep, stage, found]
          cases turn <;> cases onward <;> exact .give _ _ guard stage found
  | rest count =>
      simp only [loopStep, stage]
      exact .rest count stage
  | leave =>
      simp only [loopStep, stage]
      exact .leave stage
  | unwind fault =>
      cases last : (system.shop.guardsOf worker).getLast? with
      | none =>
          simp only [loopStep, stage, last]
          exact .fail fault stage last
      | some guard =>
          simp only [loopStep, stage, last]
          exact .drop fault guard stage last
  | exited =>
      simp only [loopStep, stage]
      exact .exited stage
  | failed fault =>
      simp only [loopStep, stage]
      exact .failed fault stage

/-- Where a worker's step comes from: its slot goes on, or its pairing has no pair for it, or
its loop goes on. -/
inductive Stepped (regime : Regime σ) (system : System σ) (worker : Worker) (thread : Thread) :
    Step σ → Prop
  | slot (advance : Workshop.Step) (busy : system.shop.isIdle worker = false)
      (taken : system.shop.advance worker = some advance) :
      Stepped regime system worker thread (system.ofShopStep worker thread advance)
  | astray (fault : Fault) (idle : system.shop.isIdle worker = true)
      (paired : regime.pairing.pairFor worker system.resources = .error fault) :
      Stepped regime system worker thread
        { system := system.setThread worker { thread with stage := .failed fault } }
  | loop (chosen : Resource × Resource) (next : Step σ) (idle : system.shop.isIdle worker = true)
      (paired : regime.pairing.pairFor worker system.resources = .ok chosen)
      (looped : LoopStep regime system worker thread chosen (regime.mode.arrange worker chosen)
        (some next)) : Stepped regime system worker thread next

theorem stepped_of_step {next : Step σ} (taken : system.step regime worker = some next) :
    ∃ thread, system.thread? worker = some thread ∧
      Stepped regime system worker thread next := by
  unfold step at taken
  cases found : system.thread? worker with
  | none =>
      simp only [found] at taken
      contradiction
  | some thread =>
      simp only [found] at taken
      refine ⟨thread, rfl, ?_⟩
      cases idle : system.shop.isIdle worker with
      | false =>
          simp only [idle, Bool.false_eq_true, if_false] at taken
          obtain ⟨advance, advanced, rfl⟩ := Option.map_eq_some_iff.mp taken
          exact .slot advance idle advanced
      | true =>
          simp only [idle, if_true] at taken
          cases paired : regime.pairing.pairFor worker system.resources with
          | error fault =>
              simp only [paired] at taken
              split at taken
              · contradiction
              · cases taken
                exact .astray fault idle paired
          | ok chosen =>
              simp only [paired] at taken
              exact .loop chosen next idle paired (taken ▸ loopStep_cases ..)

theorem thread?_fresh (resources workers : Nat) (seed : UInt64) (shared : σ) (clock : Instant)
    (worker : Worker) :
    (fresh resources workers seed shared clock).thread? worker =
      if worker.index < workers then
        some { generator := .ofSeed seed (UInt64.ofNat worker.index) }
      else none := by
  simp only [fresh, thread?, List.getElem?_map]
  split
  · rename_i inside
    rw [List.getElem?_range inside]
    rfl
  · rename_i outside
    have beyond : (List.range workers).length ≤ worker.index := by
      rw [List.length_range]
      exact Nat.le_of_not_lt outside
    rw [List.getElem?_eq_none beyond]
    rfl

theorem thread?_setThread (onBoard : (system.thread? worker).isSome) :
    (system.setThread worker thread).thread? other =
      if other = worker then some thread else system.thread? other := by
  obtain ⟨place⟩ := worker
  obtain ⟨asked⟩ := other
  simp only [thread?, isSome_getElem?] at onBoard
  simp only [thread?, setThread, List.getElem?_set, Worker.mk.injEq]
  grind

theorem setThread_self (found : system.thread? worker = some thread) :
    system.setThread worker thread = system := by
  obtain ⟨inside, same⟩ := List.getElem?_eq_some_iff.mp found
  simp only [setThread, ← same, List.set_getElem_self]

theorem resources_eq_room (system : System σ) : system.resources = system.shop.room 0 := by
  rw [resources, Workshop.room, List.head?_eq_getElem?]

/-- If the worker is in its critical section, its next step there comes to no sudden
end. -/
def Yields (regime : Regime σ) (system : System σ) (worker : Worker) : Prop :=
  ∀ thread pair done act, system.thread? worker = some thread →
    route regime.mode regime.pairing system.resources worker = .ok pair →
    thread.stage = .inside done →
    (regime.criticalSection.script worker pair)[done]? = some act →
    (act system.shared thread.generator).fault = none

theorem yields_of_returns (returns : regime.Returns) (system : System σ) (worker : Worker) :
    system.Yields regime worker :=
  fun _ pair _ act _ _ _ scripted =>
    returns worker pair act (List.mem_of_getElem? scripted) system.shared _

/-- A worker is where its loop says: its slot holds, or will hold, what the stage
asks for, and its record is accurate. -/
structure Placed (regime : Regime σ) (system : System σ) (worker : Worker) (thread : Thread)
    (pair : Resource × Resource) : Prop where
  found : system.thread? worker = some thread
  route : route regime.mode regime.pairing system.resources worker = .ok pair
  routed : Routed regime.mode system.resources pair
  truthful : system.shop.Truthful worker
  due : system.shop.due worker = (thread.stage.owned pair).map site
  allowed : thread.stage.allows (system.shop.activity worker) = true

theorem Placed.idle (placed : system.Placed regime worker thread pair)
    (taken : thread.stage.hasTaken = false) (given : thread.stage.hasGiven = false) :
    system.shop.activity worker = .idle := by
  have allowed := placed.allowed
  cases busy : system.shop.activity worker with
  | idle => rfl
  | locking | recording | settling =>
      rw [busy, Stage.allows, taken] at allowed
      contradiction
  | shifting | unlocking =>
      rw [busy, Stage.allows, given] at allowed
      contradiction

theorem Placed.calm (placed : system.Placed regime worker thread pair) :
    thread.stage.isCalm = true := by
  have allowed := placed.allowed
  cases stage : thread.stage with
  | unwind | failed =>
      rw [stage] at allowed
      cases busy : system.shop.activity worker <;> rw [busy] at allowed <;> contradiction
  | _ => rfl

section

variable (regime : Regime σ) (system : System σ) (worker : Worker) (thread : Thread)
  (pair : Resource × Resource)

inductive Looped : Workshop → Signals → σ → Thread → Prop
  | start (stage : thread.stage = .start) :
      Looped system.shop system.signals system.shared { thread with stage := .check }
  | check (stage : thread.stage = .check) :
      Looped system.shop system.signals system.shared
        { thread with stage := if system.signals.stopped then .leave else .think }
  | think (generator : Random.Generator) (stage : thread.stage = .think) :
      Looped system.shop system.signals system.shared
        { thread with stage := .take .first, generator }
  | take (turn : Turn) (stage : thread.stage = .take turn) :
      Looped (system.shop.beginAcquire worker (site (turn.of pair))).shop system.signals
        system.shared { thread with stage := .recheck turn }
  | recheck (turn : Turn) (stage : thread.stage = .recheck turn) :
      Looped system.shop system.signals system.shared
        { thread with stage := if system.signals.stopped then .give turn .leave else turn.onward }
  | gap (generator : Random.Generator) (stage : thread.stage = .gap) :
      Looped system.shop system.signals system.shared
        { thread with stage := .take .second, generator }
  | inside (done : Nat) (act : Section.Step σ) (stage : thread.stage = .inside done)
      (scripted : (regime.criticalSection.script worker pair)[done]? = some act) :
      Looped system.shop (system.signals.asked (act system.shared thread.generator).request)
        (act system.shared thread.generator).shared
        { thread with
          stage := .inside (done + 1)
          generator := (act system.shared thread.generator).generator }
  | finish (done : Nat) (stage : thread.stage = .inside done)
      (ended : (regime.criticalSection.script worker pair)[done]? = none) :
      Looped system.shop system.signals system.shared { thread with stage := .count }
  | count (record : Record) (stage : thread.stage = .count)
      (found : system.shop.board.record? worker = some record) :
      Looped (system.shop.complete worker system.clock) system.signals system.shared
        { thread with stage := .total (record.completed + 1) }
  | total (count : Nat) (stage : thread.stage = .total count) :
      Looped system.shop system.signals.record system.shared
        { thread with stage := .give .second (.rest count) }
  | give (turn : Turn) (onward : Onward) (guard : Guard) (stage : thread.stage = .give turn onward)
      (own : guard ∈ system.shop.guardsOf worker) (wanted : guard.site = site (turn.of pair)) :
      Looped (system.shop.beginRelease worker guard).shop system.signals system.shared
        { thread with stage := turn.backward onward }
  | rest (count : Nat) (generator : Random.Generator) (stage : thread.stage = .rest count) :
      Looped system.shop system.signals system.shared
        { thread with stage := .check, completed := count, generator }
  | leave (stage : thread.stage = .leave) :
      Looped system.shop system.signals system.shared { thread with stage := .exited }

inductive Next : Option (System σ) → Prop
  | slot (shop : Workshop) (advanced : system.shop.Advanced worker shop) :
      Next (some { system with shop })
  | loop (shop : Workshop) (signals : Signals) (shared : σ) (moved : Thread)
      (idle : system.shop.activity worker = .idle)
      (looped : system.Looped regime worker thread pair shop signals shared moved) :
      Next (some ({ system with shop, signals, shared }.setThread worker moved))
  | exited (idle : system.shop.activity worker = .idle) (stage : thread.stage = .exited) :
      Next none
  | blocked (site : Site) (locking : system.shop.activity worker = .locking site)
      (held : system.shop.isHeld site = true) : Next none

end

theorem Placed.sites (placed : system.Placed regime worker thread pair)
    (idle : system.shop.activity worker = .idle) :
    (system.shop.guardsOf worker).map (·.site) = (thread.stage.owned pair).map site := by
  rw [← Workshop.due_idle idle, placed.due]

theorem Placed.guard_exists (placed : system.Placed regime worker thread pair)
    (idle : system.shop.activity worker = .idle) {turn : Turn} {onward : Onward}
    (stage : thread.stage = .give turn onward) :
    ∃ guard, system.shop.guardFor? worker (turn.of pair) = some guard ∧
      guard ∈ system.shop.guardsOf worker ∧ guard.site = site (turn.of pair) := by
  have sites := placed.sites idle
  have owned : turn.of pair ∈ thread.stage.owned pair := by
    rw [stage]
    cases turn <;> simp [Stage.owned, Turn.of]
  have wanted : site (turn.of pair) ∈ (system.shop.guardsOf worker).map (·.site) := by
    rw [sites]
    exact List.mem_map_of_mem owned
  obtain ⟨wantedGuard, member, spelled⟩ := List.mem_map.mp wanted
  have some : (system.shop.guardFor? worker (turn.of pair)).isSome = true := by
    rw [Workshop.guardFor?, List.find?_isSome]
    exact ⟨wantedGuard, member, by simp [spelled, site]⟩
  obtain ⟨guard, found⟩ := Option.isSome_iff_exists.mp some
  have own := List.mem_of_find?_eq_some found
  refine ⟨guard, found, own, ?_⟩
  -- every guard of the worker is of the workers' own pool
  obtain ⟨resource, _, same⟩ := List.mem_map.mp (sites ▸ List.mem_map_of_mem own)
  have asked := List.find?_some found
  rw [← same] at asked ⊢
  exact congrArg site (of_decide_eq_true asked)

theorem Placed.step_idle (placed : system.Placed regime worker thread pair)
    (idle : system.shop.activity worker = .idle) :
    ∃ chosen, system.step regime worker = loopStep regime system worker thread chosen pair := by
  have route := placed.route
  unfold Contention.route at route
  cases chosen : regime.pairing.pairFor worker system.resources with
  | error fault =>
      rw [chosen] at route
      contradiction
  | ok chosenPair =>
      rw [chosen] at route
      cases route
      refine ⟨chosenPair, ?_⟩
      simp only [step, placed.found, Workshop.isIdle_iff.mpr idle, if_true, chosen]

theorem Placed.step_busy (placed : system.Placed regime worker thread pair)
    (busy : system.shop.activity worker ≠ .idle) :
    system.step regime worker =
      (system.shop.advance worker).map (system.ofShopStep worker thread) := by
  have notIdle : ¬ system.shop.isIdle worker = true := mt Workshop.isIdle_iff.mp busy
  simp only [step, placed.found]
  rw [if_neg notIdle]

theorem Placed.next_busy (placed : system.Placed regime worker thread pair)
    (orderly : system.shop.Orderly) (busy : system.shop.activity worker ≠ .idle) :
    Next regime system worker thread pair (system.after regime (.step worker)) := by
  rw [after, placed.step_busy busy]
  cases taken : system.shop.advance worker with
  | none =>
      rcases Workshop.advance_eq_none taken with idle | ⟨site, locking, held⟩
      · contradiction
      · exact .blocked site locking held
  | some step =>
      obtain ⟨clean, advanced⟩ := Workshop.advance_advanced taken (orderly.inside worker)
      have same : ({ system with shop := step.shop }.setThread worker thread) =
          { system with shop := step.shop } := setThread_self placed.found
      simp only [Option.map_some, ofShopStep, clean, same]
      exact .slot step.shop advanced

theorem Placed.contains (placed : system.Placed regime worker thread pair) (turn : Turn) :
    system.shop.Contains (site (turn.of pair)) := by
  unfold Workshop.Contains
  have room : system.shop.room (site (turn.of pair)).pool = system.resources :=
    (resources_eq_room system).symm
  rw [room]
  cases turn with
  | first => exact placed.routed.first_inside
  | second => exact placed.routed.second_inside

theorem Placed.few (placed : system.Placed regime worker thread pair)
    (idle : system.shop.activity worker = .idle) {turn : Turn}
    (stage : thread.stage = .take turn) : (system.shop.guardsOf worker).length < 2 := by
  have sites := congrArg List.length (placed.sites idle)
  rw [List.length_map, List.length_map, stage] at sites
  cases turn <;> simp only [Stage.owned, List.length_cons, List.length_nil] at sites <;> omega

theorem Placed.next_idle (placed : system.Placed regime worker thread pair)
    (orderly : system.shop.Orderly) (yields : system.Yields regime worker)
    (idle : system.shop.activity worker = .idle) :
    Next regime system worker thread pair (system.after regime (.step worker)) := by
  obtain ⟨chosen, stepped⟩ := placed.step_idle idle
  have calm := placed.calm
  have taken := loopStep_cases regime system worker thread chosen pair
  rw [after, stepped]
  generalize loopStep regime system worker thread chosen pair = result at taken
  cases taken with
  | start stage => exact .loop _ _ _ _ idle (.start stage)
  | check stage => exact .loop _ _ _ _ idle (.check stage)
  | think stage =>
      obtain ⟨delay, rest, drawn, _⟩ := regime.workload.think.draw_exists thread.generator
      simp only [pauseStep, drawn]
      exact .loop _ _ _ _ idle (.think rest stage)
  | take turn stage =>
      obtain ⟨clean, _⟩ := Workshop.beginAcquire_sound orderly placed.truthful idle
        (placed.few idle stage) (placed.contains turn)
      simp only [ofShopStep, clean]
      exact .loop _ _ _ _ idle (.take turn stage)
  | recheck turn stage => exact .loop _ _ _ _ idle (.recheck turn stage)
  | gap stage =>
      obtain ⟨delay, rest, drawn, _⟩ := regime.workload.gap.draw_exists thread.generator
      simp only [pauseStep, drawn]
      exact .loop _ _ _ _ idle (.gap rest stage)
  | inside done stage =>
      simp only [sectionStep]
      cases scripted : (regime.criticalSection.script worker pair)[done]? with
      | none => exact .loop _ _ _ _ idle (.finish done stage scripted)
      | some act =>
          have clean := yields thread pair done act placed.found placed.route stage scripted
          have step := Next.loop _ _ _ _ idle (Looped.inside done act stage scripted)
          simp only [clean]
          cases request : (act system.shared thread.generator).request with
          | none | some =>
              rw [request] at step
              exact step
  | count stage =>
      obtain ⟨record, _, found, _⟩ := placed.truthful
      have completed : (system.shop.complete worker system.clock).board.record? worker =
          some (record.complete system.clock) :=
        Workshop.record?_rewrite found
      simp only [completed, Option.map_some, Option.getD_some]
      exact .loop _ _ _ _ idle (.count record stage found)
  | total count stage => exact .loop _ _ _ _ idle (.total count stage)
  | give turn onward guard stage found =>
      obtain ⟨same, again, own, wanted⟩ := placed.guard_exists idle stage
      cases found.symm.trans again
      obtain ⟨clean, _⟩ := Workshop.beginRelease_sound orderly placed.truthful idle own
      simp only [ofShopStep, clean]
      exact .loop _ _ _ _ idle (.give turn onward guard stage own wanted)
  | lost turn onward stage missing =>
      obtain ⟨guard, found, _⟩ := placed.guard_exists idle stage
      cases missing.symm.trans found
  | rest count stage =>
      obtain ⟨delay, rest, drawn, _⟩ := regime.workload.rest.draw_exists thread.generator
      simp only [pauseStep, drawn]
      exact .loop _ _ _ _ idle (.rest count rest stage)
  | leave stage => exact .loop _ _ _ _ idle (.leave stage)
  | exited stage => exact .exited idle stage
  | drop _ _ stage | fail _ stage | failed _ stage =>
      rw [stage] at calm
      contradiction

theorem Placed.next (placed : system.Placed regime worker thread pair)
    (orderly : system.shop.Orderly) (yields : system.Yields regime worker) :
    Next regime system worker thread pair (system.after regime (.step worker)) := by
  by_cases idle : system.shop.activity worker = .idle
  · exact placed.next_idle orderly yields idle
  · exact placed.next_busy orderly idle

end System

end Contention

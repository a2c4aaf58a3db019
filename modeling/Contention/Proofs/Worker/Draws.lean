import Contention.Proofs.Worker.Steps

namespace Contention

open Contention.Random

/-! The delays that a worker draws.  Its cycle asks for them in a fixed order, and a worker
that gives a cycle up draws nothing more, so that its draws are always an initial part of one
stream, which its workload and its first generator fix. -/

inductive Pause where
  | think
  | gap
  | work
  | rest
deriving DecidableEq, Repr

def Pause.next : Pause → Pause
  | .think => .gap
  | .gap => .work
  | .work => .rest
  | .rest => .think

def Pause.nth : Nat → Pause
  | 0 => .think
  | count + 1 => (nth count).next

def Workload.range (workload : Workload) : Pause → Delay
  | .think => workload.think
  | .gap => workload.gap
  | .work => workload.work
  | .rest => workload.rest

namespace Workload

variable (workload : Workload) (generator : Generator)

def spent : Nat → Generator
  | 0 => generator
  | count + 1 => ((workload.range (.nth count)).drawn (spent count)).2

/-- The first delays of a worker, each with the generator that it leaves. -/
def draws (count : Nat) : List (Span × Generator) :=
  (List.range count).map fun place =>
    (workload.range (.nth place)).drawn (workload.spent generator place)

theorem draws_succ (count : Nat) :
    workload.draws generator (count + 1) = workload.draws generator count ++
      [(workload.range (.nth count)).drawn (workload.spent generator count)] := by
  rw [draws, List.range_succ, List.map_append]
  rfl

theorem draws_prefix {few many : Nat} (ordered : few ≤ many) :
    workload.draws generator few <+: workload.draws generator many := by
  induction ordered with
  | refl => exact List.prefix_rfl
  | step _ ih =>
      rw [draws_succ]
      exact ih.trans (List.prefix_append _ _)

end Workload

variable {σ τ : Type}

/-- In its critical section the worker sleeps, and does nothing else. -/
def Regime.SleepsFor (regime : Regime σ) (work : Delay) (worker : Worker) : Prop :=
  ∀ pair, regime.criticalSection.script worker pair = [Section.sleepStep work worker pair]

def Regime.dozing (mode : Mode) (pairing : Pairing) : Regime Unit where
  mode := mode
  pairing := pairing
  workload := {}
  criticalSection := .sleep ({} : Workload).work

theorem Regime.sleepsFor_dozing (mode : Mode) (pairing : Pairing) (worker : Worker) :
    (Regime.dozing mode pairing).SleepsFor ({} : Workload).work worker :=
  fun _ => rfl

/-- The pause for which a worker at this stage draws its next delay.  There is none when the
worker is on its way out. -/
def Stage.pause? : Stage → Option Pause
  | .start => some .think
  | .check => some .think
  | .think => some .think
  | .take .first => some .gap
  | .recheck .first => some .gap
  | .gap => some .gap
  | .take .second => some .work
  | .recheck .second => some .work
  | .inside 0 => some .work
  | .inside (_ + 1) => some .rest
  | .count => some .rest
  | .total _ => some .rest
  | .give _ (.rest _) => some .rest
  | .rest _ => some .rest
  | _ => none

inductive Paced (workload : Workload) (thread moved : Thread) : List Span → Prop
  | still (generator : moved.generator = thread.generator)
      (onward : moved.stage.pause? = thread.stage.pause? ∨ moved.stage.pause? = none) :
      Paced workload thread moved []
  | pause (pause : Pause) (due : thread.stage.pause? = some pause)
      (generator : moved.generator = ((workload.range pause).drawn thread.generator).2)
      (onward : moved.stage.pause? = some pause.next) :
      Paced workload thread moved [((workload.range pause).drawn thread.generator).1]

namespace System

variable {regime : Regime σ} {system : System σ} {worker : Worker} {thread : Thread}
  {chosen pair : Resource × Resource} {next : Step σ} {work : Delay}

def drawn (regime : Regime σ) (worker : Worker) (system : System σ) : List (Span × Generator) :=
  match system.step regime worker with
  | none => []
  | some step =>
      match step.system.thread? worker with
      | none => []
      | some thread =>
          (step.effects.filterMap Effect.pause?).map fun length => (length, thread.generator)

structure Draws (regime : Regime σ) (work : Delay) (system : System σ) (worker : Worker)
    (thread : Thread) (next : Step σ) (moved : Thread) : Prop where
  threads : next.system.threads = system.threads.set worker.index moved
  paced : regime.SleepsFor work worker →
    Paced { regime.workload with work } thread moved (next.effects.filterMap Effect.pause?)

theorem draws_goTo {stage : Stage} {completed : Nat} (events : List Event)
    (threads : next.system.threads =
      system.threads.set worker.index { thread with stage, completed })
    (effects : next.effects = events.map Effect.log)
    (onward : stage.pause? = thread.stage.pause? ∨ stage.pause? = none) :
    Draws regime work system worker thread next { thread with stage, completed } where
  threads := threads
  paced _ := by
    have silent : next.effects.filterMap Effect.pause? = [] := by
      rw [effects, List.filterMap_map]
      exact List.filterMap_eq_nil_iff.mpr fun _ _ => rfl
    rw [silent]
    exact .still rfl onward

theorem draws_ofShopStep {stage : Stage} (step : Workshop.Step)
    (onward : stage.pause? = thread.stage.pause? ∨ stage.pause? = none) :
    ∃ moved, Draws regime work system worker thread
      (system.ofShopStep worker { thread with stage } step) moved := by
  unfold ofShopStep
  cases step.fault with
  | none => exact ⟨_, draws_goTo step.events rfl rfl onward⟩
  | some fault => exact ⟨_, draws_goTo step.events rfl rfl (.inr rfl)⟩

theorem draws_pauseStep {range : Delay} {onward : Thread → Thread} (pause : Pause)
    (due : thread.stage.pause? = some pause)
    (same : ({ regime.workload with work } : Workload).range pause = range)
    (kept : ∀ moved, (onward moved).generator = moved.generator)
    (follows : ∀ moved, (onward moved).stage.pause? = some pause.next) :
    ∃ moved, Draws regime work system worker thread
      (system.pauseStep worker thread range onward) moved := by
  subst same
  simp only [pauseStep, Delay.draw_eq_ok]
  exact ⟨_, rfl, fun _ => .pause pause due (kept _) (follows _)⟩

theorem sectionStep_threads (script : List (Section.Step σ)) (done : Nat) :
    ∃ moved, (system.sectionStep worker thread script done).system.threads =
      system.threads.set worker.index moved := by
  unfold sectionStep
  cases script[done]? with
  | none => exact ⟨_, rfl⟩
  | some act =>
      simp only
      cases (act system.shared thread.generator).request with
      | none => exact ⟨_, rfl⟩
      | some reason => exact ⟨_, rfl⟩

theorem draws_sectionStep {done : Nat} (stage : thread.stage = .inside done) :
    ∃ moved, Draws regime work system worker thread
      (system.sectionStep worker thread (regime.criticalSection.script worker pair) done)
      moved := by
  by_cases sleeps : regime.SleepsFor work worker
  · rw [sleeps pair]
    cases done with
    | zero =>
        simp only [sectionStep, List.getElem?_cons_zero, Section.sleepStep, Section.drawPause,
          Delay.draw_eq_ok]
        exact ⟨_, rfl, fun _ => .pause .work (by rw [stage]; rfl) rfl rfl⟩
    | succ done => exact ⟨_, draws_goTo [] rfl rfl (.inl (by rw [stage]; rfl))⟩
  -- of a worker with another section only that it leaves the others alone is wanted
  · obtain ⟨moved, threads⟩ := sectionStep_threads (regime.criticalSection.script worker pair) done
    exact ⟨moved, threads, fun sleeping => absurd sleeping sleeps⟩

theorem LoopStep.draws (looped : LoopStep regime system worker thread chosen pair (some next))
    (found : system.thread? worker = some thread) :
    ∃ moved, Draws regime work system worker thread next moved := by
  cases looped with
  | start stage | total _ stage | leave stage =>
      exact ⟨_, draws_goTo [_] rfl rfl (.inl (by rw [stage]; rfl))⟩
  | check stage =>
      refine ⟨_, draws_goTo [] rfl rfl ?_⟩
      rw [stage]
      cases system.signals.stopped with
      | false => exact .inl rfl
      | true => exact .inr rfl
  | recheck turn stage =>
      refine ⟨_, draws_goTo [] rfl rfl ?_⟩
      rw [stage]
      cases system.signals.stopped with
      | false => cases turn <;> exact .inl rfl
      | true => exact .inr rfl
  | think stage => exact draws_pauseStep .think (by rw [stage]; rfl) rfl (fun _ => rfl) fun _ => rfl
  | gap stage => exact draws_pauseStep .gap (by rw [stage]; rfl) rfl (fun _ => rfl) fun _ => rfl
  | rest _ stage => exact draws_pauseStep .rest (by rw [stage]; rfl) rfl (fun _ => rfl) fun _ => rfl
  | take turn stage => exact draws_ofShopStep _ (.inl (by rw [stage]; cases turn <;> rfl))
  | give turn onward _ stage =>
      exact draws_ofShopStep _ (.inl (by rw [stage]; cases turn <;> cases onward <;> rfl))
  | inside done stage => exact draws_sectionStep stage
  | count stage => exact ⟨_, draws_goTo [] rfl rfl (.inl (by rw [stage]; rfl))⟩
  | fail => exact ⟨_, draws_goTo [] rfl rfl (.inr rfl)⟩
  | drop =>
      have same : system.threads = system.threads.set worker.index thread :=
        congrArg System.threads (setThread_self found).symm
      exact ⟨thread, draws_goTo [] same rfl (.inl rfl)⟩

theorem step_draws (work : Delay) (stepped : system.step regime worker = some next) :
    ∃ thread moved, system.thread? worker = some thread ∧
      Draws regime work system worker thread next moved := by
  obtain ⟨thread, found, taken⟩ := stepped_of_step stepped
  refine ⟨thread, ?_⟩
  cases taken with
  | slot advance =>
      obtain ⟨moved, draws⟩ := draws_ofShopStep advance (.inl rfl)
      exact ⟨moved, found, draws⟩
  | astray fault => exact ⟨_, found, draws_goTo [] rfl rfl (.inr rfl)⟩
  | loop chosen next _ _ looped =>
      obtain ⟨moved, draws⟩ := looped.draws found
      exact ⟨moved, found, draws⟩

theorem Draws.thread?_other {moved : Thread} {other : Worker}
    (draws : Draws regime work system worker thread next moved) (apart : other ≠ worker) :
    next.system.thread? other = system.thread? other := by
  have different : worker.index ≠ other.index := fun same => apart (congrArg Worker.mk same.symm)
  rw [thread?, draws.threads, List.getElem?_set_ne different, thread?]

theorem Draws.thread?_own {moved : Thread}
    (draws : Draws regime work system worker thread next moved)
    (found : system.thread? worker = some thread) :
    next.system.thread? worker = some moved := by
  obtain ⟨inside, _⟩ := List.getElem?_eq_some_iff.mp found
  rw [thread?, draws.threads, List.getElem?_set_self inside]

theorem thread?_after {after : System σ} {move : Move} (others : move.isBy worker = false)
    (moved : system.after regime move = some after) :
    after.thread? worker = system.thread? worker := by
  rcases step_or_same moved with ⟨mover, rfl⟩ | ⟨_, threads⟩
  · obtain ⟨next, stepped, rfl⟩ := Option.map_eq_some_iff.mp moved
    have apart : worker ≠ mover := fun same => of_decide_eq_false others same.symm
    obtain ⟨_, _, _, draws⟩ := step_draws .zero stepped
    exact draws.thread?_other apart
  · rw [thread?, thread?, threads]

/-- The worker has drawn an initial part of its stream, and will draw the next delay, if it
draws one, for the pause that comes next in it. -/
structure OnStream (workload : Workload) (source : Generator) (worker : Worker)
    (system : System σ) (past : List (Span × Generator)) : Prop where
  drawn : past = workload.draws source past.length
  generator : ∀ thread, system.thread? worker = some thread →
    thread.generator = workload.spent source past.length
  pause : ∀ thread pause, system.thread? worker = some thread →
    thread.stage.pause? = some pause → pause = .nth past.length

variable {source : Generator} {past : List (Span × Generator)} {after : System σ}

theorem OnStream.step
    (onStream : OnStream { regime.workload with work } source worker system past)
    (sleeps : regime.SleepsFor work worker)
    (moved : system.after regime (.step worker) = some after) :
    OnStream { regime.workload with work } source worker after
      (past ++ system.drawn regime worker) := by
  obtain ⟨next, stepped, rfl⟩ := Option.map_eq_some_iff.mp moved
  obtain ⟨thread, gone, found, draws⟩ := step_draws work stepped
  have landed := draws.thread?_own found
  have kept := onStream.generator thread found
  have paced := draws.paced sleeps
  simp only [System.drawn, stepped, landed]
  generalize next.effects.filterMap Effect.pause? = lengths at paced
  cases paced with
  | still generator onward =>
      -- a worker that draws no more stays on the stream, wherever it goes
      rw [List.map_nil, List.append_nil]
      refine ⟨onStream.drawn, fun same again => ?_, fun same pause again due => ?_⟩
      · cases landed.symm.trans again
        exact generator.trans kept
      · cases landed.symm.trans again
        rcases onward with before | none
        · exact onStream.pause thread pause found (before.symm.trans due)
        · rw [none] at due
          contradiction
  | pause pause due generator onward =>
      obtain rfl := onStream.pause thread pause found due
      rw [kept] at generator
      rw [List.map_singleton, kept, generator]
      constructor
      · rw [List.length_append, List.length_singleton, Workload.draws_succ, ← onStream.drawn]
      · intro same again
        cases landed.symm.trans again
        rw [List.length_append, List.length_singleton, generator]
        rfl
      · intro same pause again due
        cases landed.symm.trans again
        rw [List.length_append, List.length_singleton]
        exact Option.some.inj (due.symm.trans onward)

theorem OnStream.foreign {workload : Workload} {move : Move}
    (onStream : OnStream workload source worker system past) (others : move.isBy worker = false)
    (moved : system.after regime move = some after) :
    OnStream workload source worker after past := by
  have same := thread?_after others moved
  exact ⟨onStream.drawn, same ▸ onStream.generator, same ▸ onStream.pause⟩

theorem onStream_fresh (workload : Workload) (resources workers : Nat) (seed : UInt64)
    (shared : σ) (clock : Instant) (worker : Worker) :
    OnStream workload (.ofSeed seed (UInt64.ofNat worker.index)) worker
      (fresh resources workers seed shared clock) [] := by
  have blank (thread : Thread)
      (found : (fresh resources workers seed shared clock).thread? worker = some thread) :
      thread = { generator := .ofSeed seed (UInt64.ofNat worker.index) } := by
    rw [thread?_fresh] at found
    split at found
    · exact (Option.some.inj found).symm
    · contradiction
  refine ⟨rfl, fun thread found => ?_, fun thread pause found due => ?_⟩
  · rw [blank thread found]
    rfl
  · rw [blank thread found] at due
    exact (Option.some.inj due).symm

/-- The delays that the worker draws in a run, each with the generator that it leaves. -/
def delays (regime : Regime σ) (worker : Worker) (start : System σ) (moves : List Move) :
    List (Span × Generator) :=
  start.history regime worker (drawn regime worker) moves

theorem onStream_of_run {resources workers : Nat} {seed : UInt64} {shared : σ} {clock : Instant}
    {moves : List Move} (sleeps : regime.SleepsFor work worker)
    (ran : (fresh resources workers seed shared clock).run regime moves = some system) :
    OnStream { regime.workload with work } (.ofSeed seed (UInt64.ofNat worker.index)) worker system
      (delays regime worker (fresh resources workers seed shared clock) moves) :=
  run_recorded
    (OnStream { regime.workload with work } (.ofSeed seed (UInt64.ofNat worker.index)) worker)
    (fun _ _ _ onStream moved => onStream.step sleeps moved)
    (fun _ _ _ _ onStream others moved => onStream.foreign others moved) ran
    (onStream_fresh { regime.workload with work } resources workers seed shared clock worker)

theorem OnStream.agree {workload : Workload} {other : System τ} {more : List (Span × Generator)}
    (onStream : OnStream workload source worker system past)
    (onSame : OnStream workload source worker other more) : past <+: more ∨ more <+: past := by
  rw [onStream.drawn, onSame.drawn]
  rcases Nat.le_total past.length more.length with shorter | longer
  · exact .inl (Workload.draws_prefix _ _ shorter)
  · exact .inr (Workload.draws_prefix _ _ longer)

/-- In two runs of a worker under one seed and with the same ranges, its delays agree as far
as both runs go, and so do the generators that they leave.  The runs may have other workers,
other resources, another mode and pairing, another order of steps and other stops. -/
theorem delays_agree {left : Regime σ} {right : Regime τ} {seed : UInt64}
    {leftResources leftWorkers rightResources rightWorkers : Nat} {leftShared : σ}
    {rightShared : τ} {leftClock rightClock : Instant} {leftMoves rightMoves : List Move}
    {leftFinal : System σ} {rightFinal : System τ} (workload : left.workload = right.workload)
    (leftSleeps : left.SleepsFor work worker) (rightSleeps : right.SleepsFor work worker)
    (leftRan : (fresh leftResources leftWorkers seed leftShared leftClock).run left leftMoves =
      some leftFinal)
    (rightRan : (fresh rightResources rightWorkers seed rightShared rightClock).run right
      rightMoves = some rightFinal) :
    let leftDelays :=
      delays left worker (fresh leftResources leftWorkers seed leftShared leftClock) leftMoves
    let rightDelays :=
      delays right worker (fresh rightResources rightWorkers seed rightShared rightClock) rightMoves
    (leftDelays <+: rightDelays ∨ rightDelays <+: leftDelays) ∧
      ∀ leftThread rightThread, leftFinal.thread? worker = some leftThread →
        rightFinal.thread? worker = some rightThread →
        leftDelays.length = rightDelays.length → leftThread.generator = rightThread.generator := by
  intro leftDelays rightDelays
  have leftOn := onStream_of_run leftSleeps leftRan
  have rightOn := onStream_of_run rightSleeps rightRan
  rw [← workload] at rightOn
  refine ⟨leftOn.agree rightOn, fun leftThread rightThread leftFound rightFound long => ?_⟩
  rw [leftOn.generator leftThread leftFound, rightOn.generator rightThread rightFound]
  exact congrArg _ long

/-- A worker whose cycles have the usual delays gives its first cycle up in a second run, with
more workers and another mode, when it gets what it was blocked on after a stop. -/
theorem delays_agree_after_giving_up :
    ∃ leftMoves rightMoves leftFinal rightFinal thread,
      (fresh 2 2 7 () .origin).run (.dozing .totalOrder .paired) leftMoves = some leftFinal ∧
      (fresh 5 3 7 () .origin).run (.dozing .unordered .adjacent) rightMoves = some rightFinal ∧
      rightFinal.thread? ⟨1⟩ = some thread ∧ thread.stage = .exited ∧
      (delays (.dozing .totalOrder .paired) ⟨1⟩ (fresh 2 2 7 () .origin) leftMoves).length = 5 ∧
      (delays (.dozing .unordered .adjacent) ⟨1⟩ (fresh 5 3 7 () .origin) rightMoves).length = 1 ∧
      delays (.dozing .unordered .adjacent) ⟨1⟩ (fresh 5 3 7 () .origin) rightMoves <+:
        delays (.dozing .totalOrder .paired) ⟨1⟩ (fresh 2 2 7 () .origin) leftMoves := by
  let leftMoves := List.replicate 26 (Move.step ⟨1⟩)
  let rightMoves := List.replicate 14 (Move.step ⟨0⟩) ++ List.replicate 4 (Move.step ⟨1⟩) ++
    [.stop .operator] ++ List.replicate 12 (Move.step ⟨0⟩) ++ List.replicate 8 (Move.step ⟨1⟩)
  have leftGoes :
      ((fresh 2 2 7 () .origin).run (.dozing .totalOrder .paired) leftMoves).isSome := by
    decide +kernel
  have rightGoes : ((fresh 5 3 7 () .origin).run (.dozing .unordered .adjacent) rightMoves).bind
      (fun system => (system.thread? ⟨1⟩).map fun thread => thread.stage) = some .exited := by
    decide +kernel
  have longer : (delays (.dozing .totalOrder .paired) ⟨1⟩ (fresh 2 2 7 () .origin)
      leftMoves).length = 5 := by
    decide +kernel
  have shorter : (delays (.dozing .unordered .adjacent) ⟨1⟩ (fresh 5 3 7 () .origin)
      rightMoves).length = 1 := by
    decide +kernel
  obtain ⟨leftFinal, leftRan⟩ := Option.isSome_iff_exists.mp leftGoes
  obtain ⟨rightFinal, rightRan, ended⟩ := Option.bind_eq_some_iff.mp rightGoes
  obtain ⟨thread, found, exited⟩ := Option.map_eq_some_iff.mp ended
  refine ⟨leftMoves, rightMoves, leftFinal, rightFinal, thread, leftRan, rightRan, found, exited,
    longer, shorter, ?_⟩
  have workload : (Regime.dozing .totalOrder .paired).workload =
      (Regime.dozing .unordered .adjacent).workload := rfl
  rcases (delays_agree workload (Regime.sleepsFor_dozing _ _ ⟨1⟩)
    (Regime.sleepsFor_dozing _ _ ⟨1⟩) leftRan rightRan).1 with early | late
  · have bound := early.length_le
    rw [longer, shorter] at bound
    exact absurd bound (by decide)
  · exact late

end System

end Contention

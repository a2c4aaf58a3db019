import Contention.Proofs.Worker.TotalOrder
import Mathlib.Algebra.Order.BigOperators.Group.Finset

namespace Contention

/-! After a stop request every worker has only so many steps left.  Under total order
the workers cannot get stuck before they have taken them all, and so all exit and
leave everything free. -/

variable {σ : Type}

/-- A bound on the steps that are left from a stage on, if the stop flag is set and
critical sections have `script` steps.  Those of the slot count when the worker has
gone on to the next stage. -/
def Stage.stepsLeft (script : Nat) : Stage → Nat
  | .exited => 0
  | .failed _ => 0
  | .unwind _ => 0
  | .leave => 1
  | .check => 4
  | .start => 5
  | .rest _ => 5
  | .give .first _ => 8
  | .give .second _ => 11
  | .recheck .first => 11
  | .recheck .second => 12
  | .total _ => 12
  | .count => 13
  | .inside done => 14 + (script - done)
  | .take .first => 15
  | .take .second => 16
  | .think => 16
  | .gap => 17

def Stage.slack : Stage → Nat
  | .recheck _ => 3
  | .give .first _ => 2
  | .rest _ => 2
  | .leave => 2
  | _ => 0

theorem Stage.remaining_le_slack {stage : Stage} {activity : Activity}
    (allowed : stage.allows activity = true) : activity.remaining ≤ stage.slack := by
  cases activity with
  | idle => exact Nat.zero_le _
  | locking | recording | settling =>
      cases stage with
      | recheck turn => simp [Activity.remaining, slack]
      | _ => contradiction
  | shifting | unlocking =>
      cases stage with
      | give turn onward =>
          cases turn with
          | first => simp [Activity.remaining, slack]
          | second => contradiction
      | rest count => simp [Activity.remaining, slack]
      | leave => simp [Activity.remaining, slack]
      | _ => contradiction

namespace System

variable {regime : Regime σ} {resources workers : Nat} {system next final : System σ}
  {worker other : Worker} {thread moved : Thread} {pair : Resource × Resource} {shop : Workshop}
  {signals : Signals} {shared : σ}

theorem Looped.stopped (looped : system.Looped regime worker thread pair shop signals shared moved)
    (stopped : system.signals.stopped = true) : signals.stopped = true := by
  cases looped with
  | inside done act => exact Signals.stopped_asked stopped _
  | _ => exact stopped

/-- Once it sees the stop flag, a worker's every step brings it closer to its exit,
even if the slot then has the most steps to take. -/
theorem Looped.closer (looped : system.Looped regime worker thread pair shop signals shared moved)
    (stopped : system.signals.stopped = true) :
    moved.stage.stepsLeft (regime.criticalSection.script worker pair).length + moved.stage.slack <
      thread.stage.stepsLeft (regime.criticalSection.script worker pair).length := by
  cases looped with
  | check stage => simp [stage, stopped, Stage.stepsLeft, Stage.slack]
  | recheck turn stage => cases turn <;> simp [stage, stopped, Stage.stepsLeft, Stage.slack]
  | take turn stage => cases turn <;> simp [stage, Stage.stepsLeft, Stage.slack]
  | inside done act stage scripted =>
      obtain ⟨inside, _⟩ := List.getElem?_eq_some_iff.mp scripted
      simp only [stage, Stage.stepsLeft, Stage.slack]
      omega
  | finish done stage =>
      simp only [stage, Stage.stepsLeft, Stage.slack]
      omega
  | give turn onward guard stage =>
      cases turn <;> cases onward <;> simp [stage, Turn.backward, Stage.stepsLeft, Stage.slack]
  | start stage | think _ stage | gap _ stage | count _ stage | total _ stage | rest _ _ stage
  | leave stage => simp [stage, Stage.stepsLeft, Stage.slack]

def stepsLeft (regime : Regime σ) (system : System σ) (worker : Worker) : Nat :=
  match system.thread? worker, route regime.mode regime.pairing system.resources worker with
  | some thread, .ok pair =>
      thread.stage.stepsLeft (regime.criticalSection.script worker pair).length +
        (system.shop.activity worker).remaining
  | _, _ => 0

def totalStepsLeft (regime : Regime σ) (workers : Nat) (system : System σ) : Nat :=
  ∑ index ∈ Finset.range workers, system.stepsLeft regime ⟨index⟩

theorem Placed.stepsLeft_eq (placed : system.Placed regime worker thread pair) :
    system.stepsLeft regime worker =
      thread.stage.stepsLeft (regime.criticalSection.script worker pair).length +
        (system.shop.activity worker).remaining := by
  simp only [stepsLeft, placed.found, placed.route]

theorem stepsLeft_congr (threads : next.thread? worker = system.thread? worker)
    (slot : next.shop.activity worker = system.shop.activity worker)
    (size : next.resources = system.resources) :
    next.stepsLeft regime worker = system.stepsLeft regime worker := by
  unfold stepsLeft
  rw [threads, slot, size]

theorem Coherent.stepsLeft_lt (coherent : system.Coherent regime resources workers)
    (returns : regime.Returns) (stopped : system.signals.stopped = true)
    (step : system.after regime (.step worker) = some next) :
    next.stepsLeft regime worker < system.stepsLeft regime worker := by
  have yields := yields_of_returns returns system worker
  have still := coherent.step yields step
  obtain ⟨thread, pair, placed, possible⟩ := coherent.stepped yields step
  obtain ⟨moved, samePair, after⟩ := still.placed worker (coherent.member step)
  -- the pool has kept its size, and so the worker its pair
  have route := after.route
  rw [still.resources_eq, ← coherent.resources_eq, placed.route] at route
  cases route
  rw [placed.stepsLeft_eq, after.stepsLeft_eq]
  rcases possible.turned placed.found after.found with ⟨advanced, rfl, _⟩ | ⟨_, looped⟩
  · have shorter := advanced.leads.remaining
    omega
  · have closer := looped.closer stopped
    have slack := Stage.remaining_le_slack after.allowed
    omega

theorem Coherent.totalStepsLeft_lt (coherent : system.Coherent regime resources workers)
    (returns : regime.Returns) (stopped : system.signals.stopped = true)
    (step : system.after regime (.step worker) = some next) :
    next.totalStepsLeft regime workers < system.totalStepsLeft regime workers := by
  have yields := yields_of_returns returns system worker
  obtain ⟨thread, pair, placed, possible⟩ := coherent.stepped yields step
  have lands := possible.lands placed coherent.orderly
  have size : next.resources = system.resources := by
    rw [(coherent.step yields step).resources_eq, coherent.resources_eq]
  have fewer := coherent.stepsLeft_lt returns stopped step
  refine Finset.sum_lt_sum (fun index _ => ?_) ⟨worker.index, ?_, fewer⟩
  · by_cases same : (⟨index⟩ : Worker) = worker
    · rw [same]
      exact Nat.le_of_lt fewer
    · exact Nat.le_of_eq (stepsLeft_congr (lands.threads _ same)
        (lands.sound.frame.activity _ same) size)
  · exact Finset.mem_range.mpr (coherent.member step)

theorem Coherent.winds_down {move : Move} (coherent : system.Coherent regime resources workers)
    (returns : regime.Returns) (stopped : system.signals.stopped = true)
    (moved : system.after regime move = some next) :
    next.signals.stopped = true ∧
      next.totalStepsLeft regime workers + (if move.isStep then 1 else 0) ≤
        system.totalStepsLeft regime workers := by
  cases move with
  | step worker =>
      refine ⟨?_, coherent.totalStepsLeft_lt returns stopped moved⟩
      obtain ⟨thread, pair, placed, possible⟩ :=
        coherent.stepped (yields_of_returns returns system worker) moved
      cases possible with
      | slot => exact stopped
      | loop shop signals shared thread idle looped => exact looped.stopped stopped
  | stop reason =>
      cases moved
      exact ⟨Signals.stopped_halt stopped reason, Nat.le_refl _⟩
  | wait nanos =>
      cases moved
      exact ⟨stopped, Nat.le_refl _⟩

structure ShutDown (system : System σ) (workers : Nat) : Prop where
  exited : ∀ worker, worker.index < workers → system.Exited worker
  free : ∀ resource, system.shop.isHeld (site resource) = false
  clear : ∀ worker record, system.shop.board.record? worker = some record →
    record.held = .none ∧ record.awaiting = none

theorem Coherent.shutDown (coherent : system.Coherent regime resources workers)
    (exited : ∀ worker, worker.index < workers → system.Exited worker) :
    system.ShutDown workers where
  exited := exited
  free := by
    intro resource
    by_contra held
    obtain ⟨guard, live, _⟩ := (coherent.orderly.guarded.held (site resource)).mp
      (Bool.of_not_eq_false held)
    obtain ⟨member, unexited⟩ := coherent.unexited_of_guard live
    exact unexited (exited guard.taker member)
  clear := by
    intro worker record found
    have member := coherent.onBoard_iff.mp (coherent.orderly.onBoard found)
    obtain ⟨thread, pair, placed⟩ := coherent.placed worker member
    exact placed.cleared (placed.exited_iff.mp (exited worker member)) found

/-- Under total order a stop request is the end of every run: only so many steps are
left, and when no worker can take one, all have exited and everything is free. -/
theorem totalOrder_shuts_down {seed : UInt64} {start : σ} {clock : Instant}
    (ordered : regime.mode = .totalOrder) (returns : regime.Returns)
    (sized : Sized resources workers)
    (reached : Reachable regime (fresh resources workers seed start clock) system)
    (stopped : system.signals.stopped = true) :
    ∃ bound, ∀ moves final, system.run regime moves = some final →
      (moves.filter Move.isStep).length ≤ bound ∧
        ((∀ worker, worker.index < workers → final.canMove regime worker = false) →
          final.ShutDown workers) := by
  have coherent := reachable_coherent returns sized reached
  refine ⟨system.totalStepsLeft regime workers, fun moves final found => ⟨?_, fun stuck => ?_⟩⟩
  · refine Nat.le_of_add_right_le (run_bounded
      (fun system => system.Coherent regime resources workers ∧ system.signals.stopped = true)
      (totalStepsLeft regime workers) ?_ found ⟨coherent, stopped⟩)
    rintro before move next ⟨holds, asked⟩ moved
    obtain ⟨still, fewer⟩ := holds.winds_down returns asked moved
    exact ⟨⟨holds.after returns moved, still⟩, fewer⟩
  · have still : final.Coherent regime resources workers :=
      run_invariant (Coherent regime resources workers)
        (fun _ _ _ holds moved => holds.after returns moved) found coherent
    refine still.shutDown fun worker member => ?_
    by_contra unexited
    obtain ⟨mover, moverMember, _, moves⟩ := still.someone_moves ordered returns resources member
      unexited fun place _ => Nat.le_add_left _ _
    rw [stuck mover moverMember] at moves
    contradiction

/-- The stop request comes while one worker has just locked what the other is blocked
on.  The first gives it back and exits, the second gets it, and does the same. -/
theorem totalOrder_shuts_down_while_blocked :
    ∃ system moves final,
      Reachable (.restless .totalOrder .paired) (fresh 2 2 7 () .origin) system ∧
      system.signals.stopped = true ∧
      system.run (.restless .totalOrder .paired) moves = some final ∧ final.ShutDown 2 := by
  have moved : ((fresh 2 2 7 () .origin).run (.restless .totalOrder .paired)
      (List.replicate 5 (.step ⟨0⟩) ++ List.replicate 4 (.step ⟨1⟩) ++ [.stop .operator])).bind
        (fun system => (system.run (.restless .totalOrder .paired)
          (List.replicate 7 (.step ⟨0⟩) ++ List.replicate 8 (.step ⟨1⟩))).map
            fun final => (system.signals.stopped,
              final.canMove (.restless .totalOrder .paired) ⟨0⟩,
              final.canMove (.restless .totalOrder .paired) ⟨1⟩)) =
      some (true, false, false) := by
    rfl
  obtain ⟨system, found, onward⟩ := Option.bind_eq_some_iff.mp moved
  obtain ⟨final, run, seen⟩ := Option.map_eq_some_iff.mp onward
  simp only [Prod.mk.injEq] at seen
  obtain ⟨stopped, first, second⟩ := seen
  obtain ⟨bound, ends⟩ := totalOrder_shuts_down rfl (returns_of_sleep rfl)
    ⟨by decide, by decide, by decide⟩ ⟨_, found⟩ stopped
  refine ⟨system, _, final, ⟨_, found⟩, stopped, run, (ends _ final run).2 ?_⟩
  rintro ⟨_ | _ | index⟩ member
  · exact first
  · exact second
  · exact absurd member (Nat.not_lt_of_le (Nat.le_add_left 2 index))

end System

end Contention

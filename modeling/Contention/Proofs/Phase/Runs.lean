import Contention.Phase.Basic
import Contention.Proofs.Monitor.Lookout
import Contention.Proofs.Worker.Requests

namespace Contention.Phase

variable {σ : Type} {phase next : Phase σ} {log : List Note}

inductive Move where
  | act (actor : Actor)
  | stop
  | wait (nanos : Nat)

def after (phase : Phase σ) : Move → Option (Phase σ)
  | .act actor => (phase.step actor).map (·.phase)
  | .stop => some (phase.halt .operator).1
  | .wait nanos => some (phase.setClock { nanos := phase.system.clock.nanos + nanos })

def lookout (phase : Phase σ) : Lookout where
  monitor := phase.monitor
  signals := phase.system.signals
  board := phase.system.shop.board
  clock := phase.system.clock

theorem begun_of_start {config : Config} {criticalSection : Section σ} {shared : σ} {now : Instant}
    {events : List Event} (begun : start config criticalSection shared now = .ok (phase, events)) :
    ∃ deadline, now.after config.clamped.duration = .ok deadline ∧ phase = {
      config := config.clamped
      regime := {
        mode := config.mode
        pairing := config.pairing
        workload := config.workload
        criticalSection }
      system :=
        .fresh config.clamped.resources config.clamped.workers config.seed shared now
      monitor := .create {
        stallTimeout := config.clamped.stallTimeout
        sampleInterval := config.sampleInterval }
      started := now
      deadline
      host := .waiting } := by
  simp only [start, Config.corrected] at begun
  cases ends : now.after config.clamped.duration with
  | error fault =>
      simp only [ends] at begun
      contradiction
  | ok deadline =>
      simp only [ends] at begun
      cases begun
      exact ⟨deadline, rfl, rfl⟩

theorem host_of_result {result : Except Fault Summary} (ended : phase.result? = some result) :
    phase.host = match result with
      | .ok summary => .finished summary
      | .error fault => .failed fault := by
  unfold result? at ended
  split at ended
  · cases ended
    assumption
  · cases ended
    assumption
  · contradiction

def request? (phase : Phase σ) : Move → Option EndReason
  | .act .host =>
      match phase.host with
      | .expired => some .deadline
      | _ => none
  | .act .monitor => none
  | .act (.worker worker) => phase.system.asks? phase.regime worker
  | .stop => some .operator
  | .wait _ => none

def notes (phase : Phase σ) (move : Move) : List Note :=
  match move with
  | .act .monitor => phase.lookout.notes .watch
  | _ => (phase.request? move).toList.map fun reason =>
      .requested .other reason (phase.system.signals.halt reason).won

inductive Hosted (phase : Phase σ) : Phase σ → Prop
  | expired (host : phase.host = .waiting)
      (ranOut : phase.system.signals.poll phase.deadline phase.system.clock = some none) :
      Hosted phase { phase with host := .expired }
  | alerted (reason : EndReason) (host : phase.host = .waiting)
      (found : phase.system.signals.poll phase.deadline phase.system.clock = some (some reason)) :
      Hosted phase { phase with host := .stopping }
  | asked (host : phase.host = .expired) :
      Hosted phase { (phase.halt .deadline).1 with host := .stopping }
  | read (host : phase.host = .stopping) :
      Hosted phase { phase with
        host := .joiningMonitor (phase.system.clock.since phase.started)
          (phase.system.signals.reason.getD .deadline) }
  | joined (elapsed : Span) (reason : EndReason) (outcome : Monitor.Outcome)
      (host : phase.host = .joiningMonitor elapsed reason)
      (returned : phase.monitor.outcome? = some outcome) :
      Hosted phase { phase with host := .joiningWorkers elapsed reason outcome.report? }
  | broke (elapsed : Span) (reason : EndReason) (stall : Option Stall.Report) (fault : Fault)
      (host : phase.host = .joiningWorkers elapsed reason stall)
      (late : phase.system.clock.after phase.config.joinGrace = .error fault) :
      Hosted phase { phase with host := .failed fault }
  | began (elapsed : Span) (reason : EndReason) (stall : Option Stall.Report) (teardown : Teardown)
      (host : phase.host = .joiningWorkers elapsed reason stall)
      (soon : phase.system.clock.after phase.config.joinGrace = .ok teardown.deadline)
      (fresh : teardown = { deadline := teardown.deadline, pending := phase.workers }) :
      Hosted phase { phase with host := .polling elapsed reason stall teardown }
  | looked (elapsed : Span) (reason : EndReason) (stall : Option Stall.Report)
      (teardown looked : Teardown) (host : phase.host = .polling elapsed reason stall teardown)
      (taken : looked = teardown.look phase.system.hasEnded)
      (early : looked.isOver phase.system.clock = false) :
      Hosted phase { phase with host := .polling elapsed reason stall looked }
  | ended (elapsed : Span) (reason : EndReason) (stall : Option Stall.Report)
      (teardown : Teardown) (abandoned : List Straggler)
      (host : phase.host = .polling elapsed reason stall teardown)
      (late : (teardown.look phase.system.hasEnded).isOver phase.system.clock = true)
      (left : abandoned = (teardown.look phase.system.hasEnded).pending.filterMap fun worker =>
        (phase.system.shop.board.snapshot? worker phase.system.clock).map Straggler.ofSnapshot) :
      Hosted phase { phase with host := .summarising elapsed reason stall abandoned }
  | summed (elapsed : Span) (reason : EndReason) (stall : Option Stall.Report)
      (abandoned : List Straggler)
      (host : phase.host = .summarising elapsed reason stall abandoned) :
      Hosted phase { phase with host := .finished (phase.summary elapsed reason stall abandoned) }

theorem hosted_of_step {step : Step σ} (stepped : phase.hostStep = some step) :
    Hosted phase step.phase := by
  unfold hostStep at stepped
  cases host : phase.host with
  | waiting =>
      simp only [host] at stepped
      split at stepped
      · contradiction
      · cases stepped
        exact .expired host ‹_›
      · cases stepped
        exact .alerted _ host ‹_›
  | expired =>
      simp only [host] at stepped
      cases stepped
      exact .asked host
  | stopping =>
      simp only [host] at stepped
      cases stepped
      exact .read host
  | joiningMonitor elapsed reason =>
      simp only [host] at stepped
      split at stepped
      · contradiction
      · cases stepped
        exact .joined elapsed reason _ host ‹_›
  | joiningWorkers elapsed reason stall =>
      simp only [host] at stepped
      split at stepped <;> cases stepped
      · exact .broke elapsed reason stall _ host ‹_›
      · exact .began elapsed reason stall _ host ‹_› rfl
  | polling elapsed reason stall teardown =>
      simp only [host] at stepped
      split at stepped <;> cases stepped
      · exact .ended elapsed reason stall teardown _ host ‹_› rfl
      · exact .looked elapsed reason stall teardown _ host rfl (Bool.eq_false_iff.mpr ‹_›)
  | summarising elapsed reason stall abandoned =>
      simp only [host] at stepped
      cases stepped
      exact .summed elapsed reason stall abandoned host
  | finished summary | failed fault =>
      simp only [host] at stepped
      contradiction

theorem Hosted.signals (hosted : Hosted phase next) :
    next.system.signals = phase.system.signals.asked (phase.request? (.act .host)) := by
  cases hosted with
  | expired host | alerted _ host | asked host | read host | joined _ _ _ host
  | broke _ _ _ _ host | began _ _ _ _ host | looked _ _ _ _ _ host | ended _ _ _ _ _ host
  | summed _ _ _ _ host =>
      rw [request?, host]
      rfl

theorem Hosted.others (hosted : Hosted phase next) :
    next.monitor = phase.monitor ∧ next.regime = phase.regime := by
  cases hosted <;> exact ⟨rfl, rfl⟩

theorem others_after {move : Move} (others : move ≠ .act .monitor)
    (moved : phase.after move = some next) :
    next.monitor = phase.monitor ∧ next.regime = phase.regime ∧
      (move ≠ .act .host → next.host = phase.host) ∧
      (next.system.signals = phase.system.signals.asked (phase.request? move) ∨
        phase.request? move = none ∧ next.system.signals = phase.system.signals.record) := by
  cases move with
  | act actor =>
      obtain ⟨step, stepped, rfl⟩ := Option.map_eq_some_iff.mp moved
      cases actor with
      | host =>
          have hosted := hosted_of_step stepped
          exact ⟨hosted.others.1, hosted.others.2, absurd rfl, .inl hosted.signals⟩
      | monitor => contradiction
      | worker worker =>
          obtain ⟨turn, turned, rfl⟩ := Option.map_eq_some_iff.mp stepped
          exact ⟨rfl, rfl, fun _ => rfl, System.step_signals turned⟩
  | stop | wait nanos =>
      cases moved
      exact ⟨rfl, rfl, fun _ => rfl, .inl rfl⟩

theorem monitor_after (moved : phase.after (.act .monitor) = some next) :
    phase.lookout.after .watch = some next.lookout ∧ next.regime = phase.regime ∧
      next.host = phase.host := by
  obtain ⟨step, stepped, rfl⟩ := Option.map_eq_some_iff.mp moved
  obtain ⟨turn, turned, rfl⟩ := Option.map_eq_some_iff.mp stepped
  refine ⟨?_, rfl, rfl⟩
  rw [Lookout.after, lookout, turned]
  rfl

/-- The notes of a phase are those of its monitor's lookout. -/
theorem chronicle_after {move : Move} (chronicle : phase.lookout.Chronicle log)
    (moved : phase.after move = some next) :
    next.lookout.Chronicle (log ++ phase.notes move) := by
  by_cases own : move = .act .monitor
  · cases own
    exact chronicle.watch (monitor_after moved).1
  · obtain ⟨monitor, _, _, signals⟩ := others_after own moved
    have noted : phase.notes move = (phase.request? move).toList.map fun reason =>
        .requested .other reason (phase.system.signals.halt reason).won := by
      unfold notes
      split
      · contradiction
      · rfl
    rw [noted]
    cases asked : phase.request? move with
    | none =>
        rw [asked] at signals
        rw [Option.toList_none, List.map_nil, List.append_nil]
        rcases signals with same | ⟨_, counted⟩
        · exact chronicle.same monitor same
        · exact chronicle.record monitor counted
    | some reason =>
        rw [asked] at signals
        rcases signals with halted | ⟨impossible, _⟩
        · exact chronicle.stop monitor halted
        · contradiction

end Contention.Phase

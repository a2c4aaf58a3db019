import Contention.Proofs.Phase.Attribution

namespace Contention

/-! Where the clock of a phase gives out.  Three points in time are computed ahead of it: the
deadline of the phase when it is started, the end of each sleep of the monitor, and the end of the
join grace.  The settings are raised to their minimums and nothing bounds them from above, so each
of the three may lie where the clock cannot show it. -/

namespace Instant

variable {start finish : Instant} {span : Span} {fault : Fault}

theorem after_eq_error_iff :
    start.after span = .error fault ↔
      fault = .clockOverflow ∧ clockLimit ≤ start.nanos + span.nanos := by
  unfold after
  split
  · rename_i shown
    exact ⟨nofun, fun beyond => absurd shown (Nat.not_lt.mpr beyond.2)⟩
  · rename_i beyond
    constructor
    · intro same
      cases same
      exact ⟨rfl, Nat.not_lt.mp beyond⟩
    · rintro ⟨rfl, _⟩
      rfl

theorem shown_of_after (soon : start.after span = .ok finish) :
    start.nanos + span.nanos < clockLimit := by
  by_contra beyond
  have late := after_eq_error_iff.mpr ⟨rfl, Nat.not_lt.mp beyond⟩
  cases soon.symm.trans late

end Instant

/-- What came of adding `span` to the clock at some moment between `began` and `now`.  What the
clock could show then it could show before, and what lay past its end does so ever after. -/
inductive Reckoned (began now : Instant) (span : Span) : Option Fault → Prop
  | shown (within : began.nanos + span.nanos < clockLimit) : Reckoned began now span none
  | outrun (beyond : clockLimit ≤ now.nanos + span.nanos) :
      Reckoned began now span (some .clockOverflow)

namespace Reckoned

variable {began now finish : Instant} {span : Span} {fault : Fault} {sum : Option Fault}

theorem of_ok (passed : began ≤ now) (soon : now.after span = .ok finish) :
    Reckoned began now span none :=
  .shown (Nat.lt_of_le_of_lt (Nat.add_le_add_right passed _) (Instant.shown_of_after soon))

theorem of_error (late : now.after span = .error fault) : Reckoned began now span (some fault) := by
  obtain ⟨rfl, beyond⟩ := Instant.after_eq_error_iff.mp late
  exact .outrun beyond

theorem later {later : Instant} (reckoned : Reckoned began now span sum) (passed : now ≤ later) :
    Reckoned began later span sum := by
  cases reckoned with
  | shown within => exact .shown within
  | outrun beyond => exact .outrun (Nat.le_trans beyond (Nat.add_le_add_right passed _))

theorem within (reckoned : Reckoned began now span none) :
    began.nanos + span.nanos < clockLimit := by
  cases reckoned
  assumption

theorem beyond (reckoned : Reckoned began now span (some fault)) :
    fault = .clockOverflow ∧ clockLimit ≤ now.nanos + span.nanos := by
  cases reckoned
  exact ⟨rfl, ‹_›⟩

end Reckoned

namespace Monitor

variable {monitor next : Monitor} {began now : Instant}

def Outcome.fault? : Outcome → Option Fault
  | .failed fault => some fault
  | .stalled _ | .stopped => none

def Timely (monitor : Monitor) (began now : Instant) : Prop :=
  match monitor.stage with
  | .starting | .opening | .ready => True
  | .sleeping _ | .reading | .judging _ | .capturing _ | .requesting _ =>
      Reckoned began now monitor.settings.sampleInterval none
  | .finished outcome => Reckoned began now monitor.settings.sampleInterval outcome.fault?

theorem Timely.later {later : Instant} (timely : monitor.Timely began now) (passed : now ≤ later) :
    monitor.Timely began later := by
  unfold Timely at timely ⊢
  cases stage : monitor.stage with
  | starting | opening | ready => trivial
  | sleeping | reading | judging | capturing | requesting | finished =>
      rw [stage] at timely
      exact Reckoned.later timely passed

theorem Timely.returned {outcome : Outcome} (timely : monitor.Timely began now)
    (returned : monitor.outcome? = some outcome) :
    Reckoned began now monitor.settings.sampleInterval outcome.fault? := by
  unfold outcome? at returned
  unfold Timely at timely
  split at returned
  · rename_i stage
    cases returned
    rw [stage] at timely
    exact timely
  · contradiction

theorem Turns.settings {board : Board} {signals asked : Signals}
    (turns : monitor.Turns board signals now next asked) : next.settings = monitor.settings := by
  cases turns <;> rfl

theorem Timely.turn {board : Board} {signals asked : Signals} (timely : monitor.Timely began now)
    (passed : began ≤ now) (turns : monitor.Turns board signals now next asked) :
    next.Timely began now := by
  unfold Timely at timely
  cases turns with
  | started | opened | passed => trivial
  | slept deadline stage soon => exact Reckoned.of_ok passed soon
  | broke fault stage late => exact Reckoned.of_error late
  | waited _ stage | woken _ _ stage | read stage | fired _ _ stage | captured _ stage
  | requested _ stage =>
      rw [stage] at timely
      exact timely

end Monitor

def HostStage.Timely (host : HostStage) (grace : Span) (began now : Instant) : Prop :=
  match host with
  | .waiting | .expired | .stopping | .joiningMonitor _ _ | .joiningWorkers _ _ _ => True
  | .failed fault => Reckoned began now grace (some fault)
  | .polling _ _ _ _ | .summarising _ _ _ _ | .finished _ => Reckoned began now grace none

theorem HostStage.Timely.later {host : HostStage} {grace : Span} {began now later : Instant}
    (timely : host.Timely grace began now) (passed : now ≤ later) :
    host.Timely grace began later := by
  cases host with
  | waiting | expired | stopping | joiningMonitor | joiningWorkers => trivial
  | failed | polling | summarising | finished => exact Reckoned.later timely passed

namespace System

variable {σ : Type} {regime : Regime σ} {system : System σ} {worker : Worker}

@[simp] theorem clock_ofShopStep (system : System σ) (worker : Worker) (thread : Thread)
    (step : Workshop.Step) :
    (system.ofShopStep worker thread step).system.clock = system.clock := by
  unfold ofShopStep
  cases step.fault <;> rfl

@[simp] theorem clock_pauseStep (system : System σ) (worker : Worker) (thread : Thread)
    (range : Delay) (next : Thread → Thread) :
    (system.pauseStep worker thread range next).system.clock = system.clock := by
  unfold pauseStep
  cases range.draw thread.generator <;> rfl

@[simp] theorem clock_sectionStep (system : System σ) (worker : Worker) (thread : Thread)
    (script : List (Section.Step σ)) (done : Nat) :
    (system.sectionStep worker thread script done).system.clock = system.clock := by
  unfold sectionStep
  cases script[done]? with
  | none => rfl
  | some act =>
      simp only
      cases (act system.shared thread.generator).request <;> rfl

theorem LoopStep.clock {thread : Thread} {chosen pair : Resource × Resource} {next : Step σ}
    (looped : LoopStep regime system worker thread chosen pair (some next)) :
    next.system.clock = system.clock := by
  cases looped with
  | think | gap | rest => exact clock_pauseStep ..
  | take | give => exact clock_ofShopStep ..
  | inside => exact clock_sectionStep ..
  | start | check | recheck | count | total | leave | drop | fail => rfl

theorem step_clock {next : Step σ} (stepped : system.step regime worker = some next) :
    next.system.clock = system.clock := by
  obtain ⟨thread, _, taken⟩ := stepped_of_step stepped
  cases taken with
  | slot => exact clock_ofShopStep ..
  | astray => rfl
  | loop _ _ _ _ looped => exact looped.clock

end System

namespace Phase

variable {σ : Type} {phase next final : Phase σ} {config : Config} {began : Instant}
  {criticalSection : Section σ} {shared : σ} {now : Instant} {events : List Event}

structure Timely (config : Config) (began : Instant) (phase : Phase σ) : Prop where
  interval : phase.monitor.settings.sampleInterval = config.sampleInterval
  grace : phase.config.joinGrace = config.joinGrace
  passed : began ≤ phase.system.clock
  monitor : phase.monitor.Timely began phase.system.clock
  host : phase.host.Timely config.joinGrace began phase.system.clock

theorem Timely.elapse (timely : phase.Timely config began) (monitor : next.monitor = phase.monitor)
    (host : next.host = phase.host) (same : next.config = phase.config)
    (passed : phase.system.clock ≤ next.system.clock) : next.Timely config began where
  interval := by rw [monitor, timely.interval]
  grace := by rw [same, timely.grace]
  passed := Nat.le_trans timely.passed passed
  monitor := monitor ▸ timely.monitor.later passed
  host := host ▸ timely.host.later passed

theorem Hosted.frame (hosted : Hosted phase next) :
    next.monitor = phase.monitor ∧ next.config = phase.config ∧
      next.system.clock = phase.system.clock := by
  cases hosted <;> exact ⟨rfl, rfl, rfl⟩

theorem Timely.hosted (timely : phase.Timely config began) (hosted : Hosted phase next) :
    next.Timely config began := by
  obtain ⟨monitor, same, clock⟩ := hosted.frame
  refine ⟨?_, ?_, ?_, ?_, ?_⟩
  · rw [monitor, timely.interval]
  · rw [same, timely.grace]
  · rw [clock]
    exact timely.passed
  · rw [monitor, clock]
    exact timely.monitor
  · have standing := timely.host
    cases hosted with
    | expired | alerted | asked | read | joined => trivial
    | broke _ _ _ fault _ late =>
        rw [timely.grace] at late
        exact Reckoned.of_error late
    | began _ _ _ teardown _ soon =>
        rw [timely.grace] at soon
        exact Reckoned.of_ok timely.passed soon
    | looked _ _ _ _ _ host | ended _ _ _ _ _ host | summed _ _ _ _ host =>
        rw [host] at standing
        exact standing

theorem Timely.after {move : Move} (timely : phase.Timely config began)
    (moved : phase.after move = some next) : next.Timely config began := by
  cases move with
  | act actor =>
      obtain ⟨step, stepped, rfl⟩ := Option.map_eq_some_iff.mp moved
      cases actor with
      | host => exact timely.hosted (hosted_of_step stepped)
      | monitor =>
          obtain ⟨turn, turned, rfl⟩ := Option.map_eq_some_iff.mp stepped
          have turns := Monitor.step_turns turned
          exact ⟨turns.settings ▸ timely.interval, timely.grace, timely.passed,
            timely.monitor.turn timely.passed turns, timely.host⟩
      | worker worker =>
          obtain ⟨turn, turned, rfl⟩ := Option.map_eq_some_iff.mp stepped
          have clock := System.step_clock turned
          exact timely.elapse rfl rfl rfl (Nat.le_of_eq (congrArg Instant.nanos clock.symm))
  | stop =>
      cases moved
      exact timely.elapse rfl rfl rfl (Nat.le_refl _)
  | wait nanos =>
      cases moved
      exact timely.elapse rfl rfl rfl (Nat.le_add_right _ _)

theorem timely_of_start (begun : start config criticalSection shared now = .ok (phase, events)) :
    phase.Timely config now := by
  obtain ⟨_, _, rfl⟩ := begun_of_start begun
  exact ⟨rfl, rfl, Nat.le_refl _, trivial, trivial⟩

theorem start_eq_error_iff {fault : Fault} :
    start config criticalSection shared now = .error fault ↔
      now.after config.clamped.duration = .error fault := by
  simp only [start, Config.corrected]
  cases now.after config.clamped.duration with
  | error other =>
      show Except.error other = .error fault ↔ _
      rw [Except.error.injEq, Except.error.injEq]
  | ok deadline => constructor <;> intro same <;> contradiction

/-- A phase fails to begin, its monitor comes to a sudden end and its host gives up only over the
end of the clock, when the setting in question leads past it.  With a setting that does so from the
start the host never has a summary, and the monitor never a verdict. -/
theorem ends_suddenly_only_past_the_clock (config : Config) (criticalSection : Section σ)
    (shared : σ) (now : Instant) :
    (∀ fault, start config criticalSection shared now = .error fault ↔
      fault = .clockOverflow ∧ clockLimit ≤ now.nanos + config.clamped.duration.nanos) ∧
    ∀ phase events final, start config criticalSection shared now = .ok (phase, events) →
      Attains Phase.after phase final →
      (∀ fault, final.monitor.outcome? = some (.failed fault) → fault = .clockOverflow ∧
        clockLimit ≤ final.system.clock.nanos + config.sampleInterval.nanos) ∧
      (∀ outcome, final.monitor.outcome? = some outcome → (∀ fault, outcome ≠ .failed fault) →
        now.nanos + config.sampleInterval.nanos < clockLimit) ∧
      (∀ fault, final.result? = some (.error fault) → fault = .clockOverflow ∧
        clockLimit ≤ final.system.clock.nanos + config.joinGrace.nanos) ∧
      (∀ summary, final.result? = some (.ok summary) →
        now.nanos + config.joinGrace.nanos < clockLimit) := by
  refine ⟨fun fault => start_eq_error_iff.trans Instant.after_eq_error_iff, ?_⟩
  intro phase events final begun attains
  have timely : final.Timely config now :=
    attains.invariant (Timely config now) (fun _ _ _ timely moved => timely.after moved)
      (timely_of_start begun)
  refine ⟨fun fault failed => ?_, fun outcome returned sound => ?_, fun fault failed => ?_,
    fun summary finished => ?_⟩
  · rw [← timely.interval]
    exact (timely.monitor.returned failed).beyond
  · rw [← timely.interval]
    have reckoned := timely.monitor.returned returned
    cases outcome with
    | stalled | stopped => exact reckoned.within
    | failed fault => exact absurd rfl (sound fault)
  · have host := timely.host
    rw [host_of_result failed] at host
    exact Reckoned.beyond host
  · have host := timely.host
    rw [host_of_result finished] at host
    exact Reckoned.within host

def endless : Config where
  workers := 2
  resources := 2
  sampleInterval := .longest
  joinGrace := .longest

/-- The monitor is about to sleep when the operator stops the phase; the host then joins it and
goes on to the workers. -/
def curtailed : List Move :=
  List.replicate 3 (.act .monitor) ++ [.stop] ++ List.replicate 4 (.act .host)

theorem ends_suddenly_at_the_longest_spans :
    start { endless with duration := .longest } (.sleep .zero) () .origin = .error .clockOverflow ∧
    (∃ (phase final : Phase Unit) (events : List Event),
      start endless (.sleep .zero) () .origin = .ok (phase, events) ∧
      curtailed.foldlM Phase.after phase = some final ∧
      final.monitor.outcome? = some (.failed .clockOverflow) ∧
      final.result? = some (.error .clockOverflow) ∧
      clockLimit ≤ final.system.clock.nanos + endless.sampleInterval.nanos ∧
      clockLimit ≤ final.system.clock.nanos + endless.joinGrace.nanos) ∧
    ∃ (phase final : Phase Unit) (events : List Event) (report : Stall.Report) (summary : Summary),
      start hasty (.sleep .zero) () .origin = .ok (phase, events) ∧
      photoFinish.foldlM Phase.after phase = some final ∧
      final.monitor.outcome? = some (.stalled report) ∧
      final.result? = some (.ok summary) ∧
      hasty.sampleInterval.nanos < clockLimit ∧ hasty.joinGrace.nanos < clockLimit := by
  refine ⟨?_, ?_, ?_⟩
  · have refused := ends_suddenly_only_past_the_clock { endless with duration := .longest }
      (.sleep .zero) () .origin
    exact (refused.1 .clockOverflow).mpr ⟨rfl, by decide⟩
  · obtain ⟨phase, final, events, begun, ran, failed, broke⟩ :
        ∃ (phase final : Phase Unit) (events : List Event),
          start endless (.sleep .zero) () .origin = .ok (phase, events) ∧
          curtailed.foldlM Phase.after phase = some final ∧
          final.monitor.outcome? = some (.failed .clockOverflow) ∧
          final.result? = some (.error .clockOverflow) := ⟨_, _, _, rfl, rfl, rfl, rfl⟩
    obtain ⟨sleep, _, grace, _⟩ :=
      (ends_suddenly_only_past_the_clock endless (.sleep .zero) () .origin).2 phase events final
        begun ⟨curtailed, ran⟩
    exact ⟨phase, final, events, begun, ran, failed, broke, (sleep _ failed).2, (grace _ broke).2⟩
  · obtain ⟨phase, final, events, report, summary, begun, ran, returned, finished⟩ :
        ∃ (phase final : Phase Unit) (events : List Event) (report : Stall.Report)
          (summary : Summary),
          start hasty (.sleep .zero) () .origin = .ok (phase, events) ∧
          photoFinish.foldlM Phase.after phase = some final ∧
          final.monitor.outcome? = some (.stalled report) ∧
          final.result? = some (.ok summary) := ⟨_, _, _, _, _, rfl, rfl, rfl, rfl⟩
    obtain ⟨_, sleep, _, grace⟩ :=
      (ends_suddenly_only_past_the_clock hasty (.sleep .zero) () .origin).2 phase events final
        begun ⟨photoFinish, ran⟩
    have sampled := sleep _ returned (fun _ => nofun)
    have joined := grace summary finished
    rw [show Instant.origin.nanos = 0 from rfl, Nat.zero_add] at sampled joined
    exact ⟨phase, final, events, report, summary, begun, ran, returned, finished, sampled, joined⟩

end Phase

end Contention

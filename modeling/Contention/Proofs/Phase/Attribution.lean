import Contention.Proofs.Monitor.Outcome
import Contention.Proofs.Phase.Runs

namespace Contention

theorem Signals.reason_halt {signals : Signals} {reason : EndReason}
    (recorded : signals.reason = some reason) (other : EndReason) :
    (signals.halt other).signals.reason = some reason := by
  rw [halt, recorded]
  exact recorded

theorem Signals.reason_asked {signals : Signals} {reason : EndReason}
    (recorded : signals.reason = some reason) (request : Option EndReason) :
    (signals.asked request).reason = some reason := by
  cases request with
  | none => exact recorded
  | some other => exact reason_halt recorded other

theorem Signals.reason_of_halt (signals : Signals) (reason : EndReason) :
    (signals.halt reason).signals.reason ≠ none := by
  unfold halt
  cases recorded : signals.reason with
  | none => nofun
  | some existing =>
      rw [recorded]
      nofun

theorem Monitor.step_of_outcome {monitor : Monitor} {outcome : Monitor.Outcome}
    (returned : monitor.outcome? = some outcome) (board : Board) (signals : Signals)
    (now : Instant) : monitor.step board signals now = none := by
  unfold outcome? at returned
  split at returned
  · rename_i stage
    rw [step, stage]
  · contradiction

theorem Monitor.Turns.reason {monitor next : Monitor} {board : Board} {signals later : Signals}
    {now : Instant} {reason : EndReason} (turns : monitor.Turns board signals now next later)
    (recorded : signals.reason = some reason) : later.reason = some reason := by
  cases turns with
  | requested => exact Signals.reason_halt recorded .stalled
  | _ => exact recorded

namespace Phase

variable {σ : Type} {phase next final : Phase σ} {log : List Note} {reason : EndReason}
  {stall : Option Stall.Report} {move : Move}

/-- The host has seen the reason that is recorded, and the report of a monitor that has
returned. -/
structure Agrees (phase : Phase σ) (reason : EndReason) (stall : Option Stall.Report) : Prop where
  recorded : phase.system.signals.reason = some reason
  joined : ∃ outcome, phase.monitor.outcome? = some outcome ∧ stall = outcome.report?

def Informed (phase : Phase σ) : Prop :=
  match phase.host with
  | .waiting | .expired | .failed _ => True
  | .stopping => phase.system.signals.reason ≠ none
  | .joiningMonitor _ reason => phase.system.signals.reason = some reason
  | .joiningWorkers _ reason stall | .polling _ reason stall _ | .summarising _ reason stall _ =>
      phase.Agrees reason stall
  | .finished summary => phase.Agrees summary.reason summary.stall

theorem Informed.kept (informed : phase.Informed) (host : next.host = phase.host)
    (signals : ∀ reason, phase.system.signals.reason = some reason →
      next.system.signals.reason = some reason)
    (monitor : ∀ outcome, phase.monitor.outcome? = some outcome →
      next.monitor.outcome? = some outcome) : next.Informed := by
  have agrees {reason} {stall} (agrees : phase.Agrees reason stall) : next.Agrees reason stall := by
    obtain ⟨recorded, outcome, returned, same⟩ := agrees
    exact ⟨signals reason recorded, outcome, monitor outcome returned, same⟩
  unfold Informed at informed ⊢
  rw [host]
  cases stage : phase.host with
  | waiting | expired | failed => trivial
  | stopping =>
      rw [stage] at informed
      obtain ⟨reason, recorded⟩ := Option.ne_none_iff_exists'.mp informed
      rw [signals reason recorded]
      nofun
  | joiningMonitor elapsed reason =>
      rw [stage] at informed
      exact signals reason informed
  | joiningWorkers | polling | summarising | finished =>
      rw [stage] at informed
      exact agrees informed

theorem Informed.hosted (informed : phase.Informed) (hosted : Hosted phase next) :
    next.Informed := by
  unfold Informed at informed
  cases hosted with
  | expired | broke => trivial
  | alerted reason host found =>
      show phase.system.signals.reason ≠ none
      rw [Signals.reason_of_poll found]
      nofun
  | asked host =>
      show (phase.system.signals.halt .deadline).signals.reason ≠ none
      exact Signals.reason_of_halt _ _
  | read host =>
      rw [host] at informed
      obtain ⟨reason, recorded⟩ := Option.ne_none_iff_exists'.mp informed
      show phase.system.signals.reason = some (phase.system.signals.reason.getD .deadline)
      rw [recorded, Option.getD_some]
  | joined elapsed reason outcome host returned =>
      rw [host] at informed
      exact ⟨informed, outcome, returned, rfl⟩
  | began _ _ _ _ host | looked _ _ _ _ _ host | ended _ _ _ _ _ host | summed _ _ _ _ host =>
      rw [host] at informed
      exact ⟨informed.recorded, informed.joined⟩

theorem Informed.after (informed : phase.Informed) (moved : phase.after move = some next) :
    next.Informed := by
  by_cases own : move = .act .monitor
  · cases own
    obtain ⟨watched, _, host⟩ := monitor_after moved
    obtain ⟨step, stepped, same⟩ := Option.map_eq_some_iff.mp watched
    have signals : next.system.signals = step.signals := congrArg Lookout.signals same.symm
    refine informed.kept host (fun reason recorded => ?_) fun outcome returned => ?_
    · rw [signals]
      exact (Monitor.step_turns stepped).reason recorded
    · have stuck := Monitor.step_of_outcome returned phase.lookout.board phase.lookout.signals
        phase.lookout.clock
      cases stuck.symm.trans stepped
  · obtain ⟨monitor, _, host, signals⟩ := others_after own moved
    by_cases hosting : move = .act .host
    · cases hosting
      obtain ⟨step, stepped, rfl⟩ := Option.map_eq_some_iff.mp moved
      exact informed.hosted (hosted_of_step stepped)
    · refine informed.kept (host hosting) (fun reason recorded => ?_) fun outcome returned => ?_
      · rcases signals with asked | ⟨_, counted⟩
        · rw [asked]
          exact Signals.reason_asked recorded _
        · rw [counted]
          exact recorded
      · rwa [monitor]

def noted (phase : Phase σ) (moves : List Move) : List Note :=
  history Phase.after Phase.notes phase moves

structure Unclaimed (phase : Phase σ) (log : List Note) : Prop where
  sections : phase.regime.DeclaresNoStall
  unused : ∀ won, .requested .other .stalled won ∉ log

theorem request?_ne_stalled (sections : phase.regime.DeclaresNoStall) (move : Move) :
    phase.request? move ≠ some .stalled := by
  cases move with
  | act actor =>
      cases actor with
      | host =>
          unfold request?
          cases phase.host <;> nofun
      | monitor => nofun
      | worker worker => exact System.asks?_ne_stalled sections
  | stop | wait nanos => nofun

theorem notes_unused (sections : phase.regime.DeclaresNoStall) (move : Move) (won : Bool) :
    .requested .other .stalled won ∉ phase.notes move := by
  unfold notes
  split
  · simp only [Lookout.notes]
    split
    · intro member
      obtain ⟨_, _, same⟩ := List.mem_map.mp member
      contradiction
    · intro member
      cases List.mem_singleton.mp member
    · exact List.not_mem_nil
  · intro member
    obtain ⟨reason, asked, same⟩ := List.mem_map.mp member
    cases same
    exact request?_ne_stalled sections _ (Option.mem_toList.mp asked)

theorem Unclaimed.after (unclaimed : phase.Unclaimed log) (moved : phase.after move = some next) :
    next.Unclaimed (log ++ phase.notes move) := by
  obtain ⟨sections, unused⟩ := unclaimed
  refine ⟨?_, fun won member => ?_⟩
  · by_cases own : move = .act .monitor
    · cases own
      rw [(monitor_after moved).2.1]
      exact sections
    · rw [(others_after own moved).2.1]
      exact sections
  · rcases List.mem_append.mp member with early | late
    · exact unused won early
    · exact notes_unused sections move won late

structure Told (phase : Phase σ) (log : List Note) : Prop where
  informed : phase.Informed
  chronicle : phase.lookout.Chronicle log
  unclaimed : phase.Unclaimed log

theorem Told.after (told : phase.Told log) (moved : phase.after move = some next) :
    next.Told (log ++ phase.notes move) where
  informed := told.informed.after moved
  chronicle := chronicle_after told.chronicle moved
  unclaimed := told.unclaimed.after moved

theorem told_of_start {config : Config} {criticalSection : Section σ} {shared : σ} {now : Instant}
    {events : List Event} (begun : start config criticalSection shared now = .ok (phase, events))
    (sections : ∀ worker pair, ∀ act ∈ criticalSection.script worker pair, ∀ shared generator,
      (act shared generator).request ≠ some .stalled) : phase.Told [] := by
  obtain ⟨_, _, rfl⟩ := begun_of_start begun
  exact ⟨trivial, ⟨attested_fresh, nofun⟩, sections, nofun⟩

theorem agrees_of_result {summary : Summary} (informed : phase.Informed)
    (finished : phase.result? = some (.ok summary)) :
    phase.Agrees summary.reason summary.stall := by
  unfold Informed at informed
  rw [host_of_result finished] at informed
  exact informed

/-- A report that the recorded reason does not speak of comes too late by one request. -/
theorem overtaken {report : Stall.Report} {lookout : Lookout} (chronicle : lookout.Chronicle log)
    (returned : lookout.monitor.outcome? = some (.stalled report))
    (recorded : lookout.signals.reason = some reason) (other : reason ≠ .stalled) :
    ∃ before middle after,
      log = before ++ .waited false :: (middle ++ .requested .monitor .stalled false :: after) ∧
      (∀ stopped, .waited stopped ∉ middle ++ after) ∧
      .requested .other reason true ∈ middle := by
  have course := chronicle.course
  rw [Lookout.stage_of_outcome returned] at course
  obtain ⟨before, middle, won, after, declared⟩ := course
  have winner := declared.winner
  obtain ⟨⟨parts, _, _⟩, foreign, _, rest⟩ := declared
  have latest {note} (member : note ∈ middle ++ .requested .monitor .stalled won :: after) :
      note ∈ log := by
    rw [parts]
    exact List.mem_append_right _ (List.mem_cons_of_mem _ member)
  cases won with
  | true =>
      have own := chronicle.attested.recorded
        (latest (List.mem_append_right _ List.mem_cons_self))
      exact absurd (Option.some.inj (recorded.symm.trans own)) other
  | false =>
      obtain ⟨first, member⟩ := winner.resolve_left Bool.false_ne_true
      have same := chronicle.attested.recorded (latest (List.mem_append_left _ member))
      cases recorded.symm.trans same
      exact ⟨before, middle, after, parts, (foreign.append rest).not_waited, member⟩

/-- The summary names the request that has won.  If the monitor's has, there is a report; if there
is a report and another has won, then that came between the monitor's last wait and its request.
The host never finds that no reason is recorded. -/
theorem stop_attributed {config : Config} {criticalSection : Section σ} {shared : σ} {now : Instant}
    {events : List Event} {moves : List Move}
    (begun : start config criticalSection shared now = .ok (phase, events))
    (sections : ∀ worker pair, ∀ act ∈ criticalSection.script worker pair, ∀ shared generator,
      (act shared generator).request ≠ some .stalled)
    (ran : moves.foldlM Phase.after phase = some final) :
    (final.host = .stopping → final.system.signals.reason ≠ none) ∧
    ∀ summary, final.result? = some (.ok summary) →
      (∀ fault, final.monitor.outcome? ≠ some (.failed fault)) →
      (∃ caller, winners (phase.noted moves) = [(caller, summary.reason)]) ∧
      (summary.reason = .stalled → summary.stall ≠ none) ∧
      (summary.stall ≠ none → summary.reason ≠ .stalled →
        ∃ before middle after,
          phase.noted moves =
            before ++ .waited false :: (middle ++ .requested .monitor .stalled false :: after) ∧
          (∀ stopped, .waited stopped ∉ middle ++ after) ∧
          .requested .other summary.reason true ∈ middle) := by
  have told : final.Told (phase.noted moves) :=
    foldlM_recorded Phase.notes [] Told (fun _ _ _ _ told moved => told.after moved) ran
      (told_of_start begun sections)
  obtain ⟨informed, chronicle, unclaimed⟩ := told
  refine ⟨fun stopping => ?_, fun summary finished sound => ?_⟩
  · rw [Informed, stopping] at informed
    exact informed
  · obtain ⟨recorded, outcome, returned, joined⟩ := agrees_of_result informed finished
    refine ⟨chronicle.attested.decided recorded, fun stalled missing => ?_, fun present other => ?_⟩
    · cases outcome with
      | stalled report =>
          rw [missing] at joined
          contradiction
      | stopped =>
          obtain ⟨_, before, after, reason, parts, winner, _, same⟩ :=
            chronicle.woken (Lookout.stage_of_outcome returned)
          cases recorded.symm.trans same
          rw [stalled] at winner
          refine unclaimed.unused true ?_
          rw [parts]
          exact List.mem_append_left _ winner
      | failed fault => exact sound fault returned
    · cases outcome with
      | stalled report => exact overtaken chronicle returned recorded other
      | stopped | failed fault => exact absurd joined present

/-- No operation is completed in the first second; the operator stops the phase when the monitor is
about to. -/
def photoFinish : List Move :=
  List.replicate 3 (.act .monitor) ++ [.wait 1000000000] ++ List.replicate 4 (.act .monitor) ++
    [.stop, .act .monitor] ++ List.replicate 6 (.act .host)

def hasty : Config where
  workers := 2
  resources := 2
  stallTimeout := .ofSecondsWord 1
  sampleInterval := .ofSecondsWord 1
  joinGrace := .zero

theorem request_sleep (range : Delay) (worker : Worker) (pair : Resource × Resource) :
    ∀ act ∈ (Section.sleep range : Section σ).script worker pair, ∀ shared generator,
      (act shared generator).request ≠ some .stalled := by
  intro act member shared generator
  cases List.mem_singleton.mp member
  unfold Section.sleepStep Section.drawPause
  split <;> nofun

theorem eq_ok_of_toOption {ε α : Type} {attempt : Except ε α} {value : α}
    (found : attempt.toOption = some value) : attempt = .ok value := by
  cases attempt with
  | error fault => contradiction
  | ok given => exact congrArg Except.ok (Option.some.inj found)

theorem stop_attributed_in_a_photo_finish :
    ∃ (phase final : Phase Unit) (events : List Event) (summary : Summary),
      start hasty (.sleep .zero) () .origin = .ok (phase, events) ∧
      photoFinish.foldlM Phase.after phase = some final ∧
      final.result? = some (.ok summary) ∧ summary.stall.isSome = true ∧
      (∃ caller, winners (phase.noted photoFinish) = [(caller, .operator)]) ∧
      ∃ before middle after,
        phase.noted photoFinish =
          before ++ .waited false :: (middle ++ .requested .monitor .stalled false :: after) ∧
        .requested .other .operator true ∈ middle := by
  have moved : (start hasty (.sleep .zero) () .origin).toOption.bind (fun begun =>
      (photoFinish.foldlM Phase.after begun.1).bind fun final =>
        (final.result?.bind Except.toOption).map fun summary => (summary.stall.isSome,
          summary.reason, (final.monitor.outcome?.bind (·.report?)).isSome)) =
      some (true, .operator, true) := by
    decide +kernel
  obtain ⟨⟨phase, events⟩, begun, onward⟩ := Option.bind_eq_some_iff.mp moved
  obtain ⟨final, ran, ended⟩ := Option.bind_eq_some_iff.mp onward
  obtain ⟨summary, finished, seen⟩ := Option.map_eq_some_iff.mp ended
  obtain ⟨result, finished, passed⟩ := Option.bind_eq_some_iff.mp finished
  cases eq_ok_of_toOption passed
  simp only [Prod.mk.injEq] at seen
  obtain ⟨present, reason, reported⟩ := seen
  have begun := eq_ok_of_toOption begun
  have sound : ∀ fault, final.monitor.outcome? ≠ some (.failed fault) := by
    intro fault failed
    rw [failed] at reported
    contradiction
  obtain ⟨_, attributed⟩ := stop_attributed begun (request_sleep .zero) ran
  obtain ⟨named, _, late⟩ := attributed summary finished sound
  rw [reason] at named late
  obtain ⟨before, middle, after, parts, _, member⟩ :=
    late (Option.isSome_iff_ne_none.mp present) nofun
  exact ⟨phase, final, events, summary, begun, ran, finished, present, named, before, middle, after,
    parts, member⟩

end Phase

end Contention

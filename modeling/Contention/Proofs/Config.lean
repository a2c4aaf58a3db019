import Contention.CommandLine.Program

namespace Contention

theorem Span.nanos_longer (left right : Span) :
    (left.longer right).nanos = max left.nanos right.nanos := by
  unfold longer
  split
  · exact (Nat.max_eq_right ‹_›).symm
  · rename_i shorter
    exact (Nat.max_eq_left (Nat.le_of_not_le shorter)).symm

theorem Span.longer_eq_left_iff {left right : Span} :
    left.longer right = left ↔ ¬ left < right := by
  rw [Span.lt_iff]
  constructor
  · intro same
    have nanos := congrArg Span.nanos same
    rw [nanos_longer] at nanos
    omega
  · intro enough
    apply Span.eq_of_nanos
    rw [nanos_longer]
    omega

namespace ConfigIssue

/-- A setting that is below its minimum, with its value. -/
inductive Concerns (config : Config) : ConfigIssue → Prop
  | resources (few : config.resources < minResources) :
      Concerns config (.tooFewResources config.resources)
  | workers (few : config.workers < minWorkers) : Concerns config (.tooFewWorkers config.workers)
  | stallTimeout (short : config.stallTimeout < minStallTimeout) :
      Concerns config (.stallTimeoutTooShort config.stallTimeout)
  | duration (short : config.duration < minDuration) :
      Concerns config (.durationTooShort config.duration)

end ConfigIssue

namespace Config

variable {config : Config} {issue : ConfigIssue}

theorem mem_issues : issue ∈ config.issues ↔ issue.Concerns config := by
  simp only [issues, List.mem_append, List.mem_ite_nil_right, List.mem_singleton]
  constructor
  · rintro (((⟨few, rfl⟩ | ⟨few, rfl⟩) | ⟨short, rfl⟩) | ⟨short, rfl⟩)
    · exact .resources few
    · exact .workers few
    · exact .stallTimeout short
    · exact .duration short
  · rintro (few | few | short | short)
    · exact .inl (.inl (.inl ⟨few, rfl⟩))
    · exact .inl (.inl (.inr ⟨few, rfl⟩))
    · exact .inl (.inr ⟨short, rfl⟩)
    · exact .inr ⟨short, rfl⟩

theorem issues_sublist (config : Config) : config.issues.Sublist
    [.tooFewResources config.resources, .tooFewWorkers config.workers,
      .stallTimeoutTooShort config.stallTimeout, .durationTooShort config.duration] := by
  have reported (below : Prop) [Decidable below] (issue : ConfigIssue) :
      (if below then [issue] else []).Sublist [issue] := by
    split
    · exact .refl _
    · exact List.nil_sublist _
  exact (((reported _ _).append (reported _ _)).append (reported _ _)).append (reported _ _)

theorem issues_eq_nil_iff : config.issues = [] ↔
    ¬ config.resources < minResources ∧ ¬ config.workers < minWorkers ∧
      ¬ config.stallTimeout < minStallTimeout ∧ ¬ config.duration < minDuration := by
  simp [issues]

theorem clamped_eq_self_iff : config.clamped = config ↔ config.issues = [] := by
  have enough (value least : Nat) : max value least = value ↔ ¬ value < least := by omega
  rw [issues_eq_nil_iff, ← enough, ← enough, ← Span.longer_eq_left_iff, ← Span.longer_eq_left_iff]
  cases config
  simp only [clamped, Config.mk.injEq, and_true]

theorem issues_clamped (config : Config) : config.clamped.issues = [] := by
  rw [issues_eq_nil_iff]
  simp only [clamped, Span.lt_iff, Span.nanos_longer]
  omega

theorem corrected_clamped (config : Config) : config.clamped.corrected = (config.clamped, []) :=
  Prod.ext (clamped_eq_self_iff.mpr (issues_clamped config)) (issues_clamped config)

end Config

def warnings (events : List Event) : List Event := events.filter fun event => event.level = .warn

theorem warnings_start {σ : Type} (config : Config) (criticalSection : Section σ) (shared : σ)
    (now : Instant) :
    (Phase.start config criticalSection shared now).map (fun begun =>
      (begun.1.config, warnings begun.2)) =
    (now.after config.clamped.duration).map fun _ =>
      (config.clamped, config.issues.map ConfigIssue.event) := by
  have kept : warnings (config.issues.map ConfigIssue.event ++ [Phase.startEvent config.clamped]) =
      config.issues.map ConfigIssue.event := by
    have reported : ∀ event ∈ config.issues.map ConfigIssue.event,
        decide (event.level = .warn) = true := by
      intro event member
      obtain ⟨issue, _, rfl⟩ := List.mem_map.mp member
      rfl
    rw [warnings, List.filter_append, List.filter_eq_self.mpr reported]
    exact List.append_nil _
  simp only [Phase.start, Config.corrected]
  cases now.after config.clamped.duration with
  | error fault => rfl
  | ok deadline => exact congrArg (fun kept => Except.ok (config.clamped, kept)) kept

/-- A phase of the program runs with settings that have been raised before. -/
theorem clamped_of_plan {given : CommandLine.Given} {entry : Char × Config}
    (planned : entry ∈ given.settings.plan) : ∃ config : Config, entry.2 = config.clamped := by
  obtain ⟨mode, _, same⟩ := List.mem_map.mp (List.of_mem_zip planned).2
  exact ⟨{ given.config with mode }, same.symm⟩

/-- Every setting below its minimum is raised to it, reported once in the order of the settings and
logged; the others are kept.  Settings that have been raised are found in order, so the program,
which raises them before it starts a phase, warns of each of them once. -/
theorem corrected_exactly (config : Config) :
    (config.corrected.1.resources = max config.resources minResources ∧
      config.corrected.1.workers = max config.workers minWorkers ∧
      config.corrected.1.stallTimeout.nanos =
        max config.stallTimeout.nanos minStallTimeout.nanos ∧
      config.corrected.1.duration.nanos = max config.duration.nanos minDuration.nanos ∧
      { config.corrected.1 with
        resources := config.resources
        workers := config.workers
        stallTimeout := config.stallTimeout
        duration := config.duration } = config) ∧
    config.corrected.2.Sublist
      [.tooFewResources config.resources, .tooFewWorkers config.workers,
        .stallTimeoutTooShort config.stallTimeout, .durationTooShort config.duration] ∧
    (∀ issue, issue ∈ config.corrected.2 ↔ issue.Concerns config) ∧
    (config.corrected.1 = config ↔ config.corrected.2 = []) ∧
    config.corrected.1.corrected = (config.corrected.1, []) ∧
    (∀ (σ : Type) (criticalSection : Section σ) (shared : σ) (now : Instant),
      (Phase.start config criticalSection shared now).map (fun begun =>
        (begun.1.config, warnings begun.2)) =
      (now.after config.corrected.1.duration).map fun _ =>
        (config.corrected.1, config.corrected.2.map ConfigIssue.event)) ∧
    ∀ (given : CommandLine.Given) (now : Instant),
      given.settings.warnings = given.config.corrected.2.map ConfigIssue.event ∧
      (given.settings.plan.map fun entry =>
        (CommandLine.startPhase entry.2 now).map fun begun =>
          (begun.1.config, warnings begun.2)) =
      given.settings.plan.map fun entry =>
        (now.after entry.2.duration).map fun _ => (entry.2, []) := by
  refine ⟨⟨rfl, rfl, Span.nanos_longer _ _, Span.nanos_longer _ _, rfl⟩,
    config.issues_sublist, fun issue => Config.mem_issues, Config.clamped_eq_self_iff,
    config.corrected_clamped, fun σ criticalSection shared now => warnings_start ..,
    fun given now => ⟨rfl, List.map_congr_left fun entry planned => ?_⟩⟩
  obtain ⟨config, raised⟩ := clamped_of_plan planned
  rw [raised, CommandLine.startPhase, warnings_start, Config.issues_clamped,
    Config.clamped_eq_self_iff.mpr config.issues_clamped]
  rfl

end Contention

import Contention.Proofs.Monitor.Readings

namespace Contention

section

variable {log : List Note} {caller : Caller} {reason : EndReason} {won : Bool}

theorem Unasked.caller_eq (unasked : Unasked log) (member : .requested caller reason won ∈ log) :
    caller = .other := by
  cases caller with
  | monitor => exact absurd (unasked _ member) Bool.noConfusion
  | other => rfl

theorem Unasked.exists_winner (unasked : Unasked log) (decided : winners log ≠ []) :
    ∃ reason, .requested .other reason true ∈ log := by
  obtain ⟨⟨caller, reason⟩, member⟩ := List.exists_mem_of_ne_nil _ decided
  have winner := mem_winners_iff.mp member
  obtain rfl := unasked.caller_eq winner
  exact ⟨reason, winner⟩

theorem Foreign.not_waited (foreign : Foreign log) (stopped : Bool) : .waited stopped ∉ log :=
  fun member => absurd (foreign _ member) Bool.noConfusion

/-- The monitor's request has won, or another that came after the monitor's last wait. -/
theorem Declared.winner {before middle after : List Note}
    (declared : Declared log before middle won after) :
    won = true ∨ ∃ reason, .requested .other reason true ∈ middle := by
  obtain ⟨_, foreign, first, _⟩ := declared
  cases decided : winners middle with
  | nil => exact .inl (by rw [first, decided]; rfl)
  | cons winner others =>
      exact .inr (foreign.unasked.exists_winner (by rw [decided]; exact List.cons_ne_nil _ _))

end

namespace Lookout

variable {settings : Monitor.Settings} {board : Board} {clock : Instant} {moves : List Move}
  {lookout : Lookout} {log : List Note} {outcome : Monitor.Outcome} {report : Stall.Report}

def noted (start : Lookout) (moves : List Move) : List Note :=
  history Lookout.after Lookout.notes start moves

def read (start : Lookout) (moves : List Move) : List Reading :=
  readings (history Lookout.after Lookout.sights start moves)

theorem stage_of_outcome (returned : lookout.monitor.outcome? = some outcome) :
    lookout.monitor.stage = .finished outcome := by
  unfold Monitor.outcome? at returned
  split at returned
  · rename_i stage
    rw [stage, Option.some.inj returned]
  · contradiction

theorem Chronicle.woken (chronicle : lookout.Chronicle log)
    (stage : lookout.monitor.stage = .finished .stopped) :
    Unasked log ∧ ∃ before after reason, log = before ++ .waited true :: after ∧
      .requested .other reason true ∈ before ∧ (∀ stopped, .waited stopped ∉ after) ∧
      lookout.signals.reason = some reason := by
  have course := chronicle.course
  rw [stage] at course
  obtain ⟨before, after, parts, unasked, decided, foreign⟩ := course
  obtain ⟨reason, winner⟩ := unasked.exists_winner decided
  have member : .requested .other reason true ∈ log := parts ▸ List.mem_append_left _ winner
  refine ⟨?_, before, after, reason, parts, winner, foreign.not_waited,
    chronicle.attested.recorded member⟩
  rw [parts]
  exact unasked.append (List.forall_mem_cons.mpr ⟨rfl, foreign.unasked⟩)

theorem Chronicle.declared (chronicle : lookout.Chronicle log)
    (stage : lookout.monitor.stage = .finished (.stalled report)) :
    ∃ before won after, log = before ++ .requested .monitor .stalled won :: after ∧
      Unasked before ∧ Unasked after ∧ lookout.signals.reason ≠ none ∧
      ((∀ won, .requested .other .stalled won ∉ log) →
        (lookout.signals.reason = some .stalled ↔
          ∀ reason, .requested .other reason true ∉ before)) := by
  have course := chronicle.course
  rw [stage] at course
  obtain ⟨early, middle, won, after, declared⟩ := course
  have winner := declared.winner
  obtain ⟨⟨parts, unasked, _⟩, foreign, _, rest⟩ := declared
  rw [← List.cons_append, ← List.append_assoc] at parts
  have own (first : won = true) : lookout.signals.reason = some .stalled := by
    refine chronicle.attested.recorded (?_ : .requested .monitor .stalled true ∈ log)
    rw [parts, first]
    exact List.mem_append_right _ List.mem_cons_self
  have others {reason} (member : .requested .other reason true ∈ early ++ .waited false :: middle) :
      .requested .other reason true ∈ log := by
    rw [parts]
    exact List.mem_append_left _ member
  have late {note} (member : note ∈ middle) : note ∈ early ++ .waited false :: middle :=
    List.mem_append_right _ (List.mem_cons_of_mem _ member)
  refine ⟨_, won, after, parts, unasked.append (List.forall_mem_cons.mpr ⟨rfl, foreign.unasked⟩),
    rest.unasked, ?_, fun unused => ⟨fun stalled reason member => ?_, fun none => ?_⟩⟩
  · rcases winner with first | ⟨reason, member⟩
    · rw [own first]
      nofun
    · rw [chronicle.attested.recorded (others (late member))]
      nofun
  · cases (chronicle.attested.recorded (others member)).symm.trans stalled
    exact unused true (others member)
  · rcases winner with first | ⟨reason, member⟩
    · exact own first
    · exact absurd (late member) (none reason)

/-- A monitor that has returned leaves a stop.  It has asked for none itself if it was stopped, and
the request that it has seen came before its last wait ended.  If it has declared a stall, then its
readings and its report bear it out, and the reason is the stall unless another request was
faster. -/
theorem outcome_justified
    (ran : moves.foldlM Lookout.after (Lookout.start settings board clock) = some lookout)
    (returned : lookout.monitor.outcome? = some outcome) :
    ((∀ fault, outcome ≠ .failed fault) →
      lookout.signals.stopped = true ∧ lookout.signals.reason ≠ none) ∧
    (outcome = .stopped →
      Unasked (noted (.start settings board clock) moves) ∧
      ∃ before after reason,
        noted (.start settings board clock) moves = before ++ .waited true :: after ∧
        .requested .other reason true ∈ before ∧ (∀ stopped, .waited stopped ∉ after) ∧
        lookout.signals.reason = some reason) ∧
    (∀ report, outcome = .stalled report →
      Grounded settings report (read (.start settings board clock) moves) ∧
      ∃ before won after,
        noted (.start settings board clock) moves =
          before ++ .requested .monitor .stalled won :: after ∧
        Unasked before ∧ Unasked after ∧
        ((∀ won, .requested .other .stalled won ∉ noted (.start settings board clock) moves) →
          (lookout.signals.reason = some .stalled ↔
            ∀ reason, .requested .other reason true ∉ before))) := by
  have stage := stage_of_outcome returned
  have chronicle : lookout.Chronicle (noted (.start settings board clock) moves) :=
    foldlM_recorded notes [] Chronicle (fun _ _ _ _ chronicle moved => chronicle.after moved) ran
      (chronicle_start settings board clock)
  have vigil : Vigil settings lookout
      (history Lookout.after sights (.start settings board clock) moves) :=
    foldlM_recorded sights [] (Vigil settings) (fun _ _ _ _ vigil moved => vigil.after moved) ran
      (vigil_start settings board clock)
  cases outcome with
  | failed fault => exact ⟨fun sound => absurd rfl (sound fault), nofun, nofun⟩
  | stopped =>
      have woken := chronicle.woken stage
      refine ⟨fun _ => ?_, fun _ => woken, nofun⟩
      obtain ⟨_, _, _, reason, _, _, _, recorded⟩ := woken
      rw [chronicle.attested.agree, recorded]
      exact ⟨rfl, nofun⟩
  | stalled report =>
      obtain ⟨before, won, after, parts, early, late, decided, first⟩ := chronicle.declared stage
      refine ⟨fun _ => ⟨?_, decided⟩, nofun, ?_⟩
      · rw [chronicle.attested.agree]
        exact Option.isSome_iff_ne_none.mpr decided
      · rintro _ ⟨⟩
        have grounded := vigil.read
        rw [Read, stage, vigil.settings] at grounded
        exact ⟨grounded, before, won, after, parts, early, late, first⟩

def locked : Board where
  records := [
    { first := some ⟨0⟩, awaiting := some ⟨1⟩, lastProgress := .origin },
    { first := some ⟨1⟩, awaiting := some ⟨0⟩, lastProgress := .origin }]

/-- An operation is completed before the first sample, none after it, and the operator is faster
than the monitor in the end. -/
def overtaken : List Move :=
  [.watch, .watch, .watch, .record, .wait 1, .watch, .watch, .watch, .watch, .wait 1, .watch,
    .watch, .watch, .watch, .wait 1, .turn locked, .watch, .watch, .watch, .watch,
    .stop .operator, .watch]

def impatient : Monitor.Settings where
  stallTimeout := .ofNanosWord 2
  sampleInterval := .ofNanosWord 1

/-- The report is about a stall, and yet the reason is another. -/
theorem outcome_justified_when_overtaken :
    ∃ lookout report,
      overtaken.foldlM Lookout.after (start impatient (.ofSize 2 .origin) .origin) = some lookout ∧
      lookout.monitor.outcome? = some (.stalled report) ∧ report.cycles = [[⟨0⟩, ⟨1⟩]] ∧
      Grounded impatient report (read (start impatient (.ofSize 2 .origin) .origin) overtaken) ∧
      lookout.signals.stopped = true ∧ lookout.signals.reason = some .operator ∧
      ∃ before won after,
        noted (start impatient (.ofSize 2 .origin) .origin) overtaken =
          before ++ .requested .monitor .stalled won :: after ∧
        ∃ reason, .requested .other reason true ∈ before := by
  have moved : (overtaken.foldlM Lookout.after
      (start impatient (.ofSize 2 .origin) .origin)).bind (fun lookout =>
        (lookout.monitor.outcome?.bind (·.report?)).map fun report =>
          (report.cycles, lookout.signals.reason)) =
      some ([[⟨0⟩, ⟨1⟩]], some .operator) := by
    decide +kernel
  have noted_eq : noted (start impatient (.ofSize 2 .origin) .origin) overtaken =
      [.waited false, .waited false, .waited false, .requested .other .operator true,
        .requested .monitor .stalled false] := by
    decide +kernel
  obtain ⟨lookout, ran, reported⟩ := Option.bind_eq_some_iff.mp moved
  obtain ⟨report, found, seen⟩ := Option.map_eq_some_iff.mp reported
  obtain ⟨outcome, returned, shown⟩ := Option.bind_eq_some_iff.mp found
  obtain ⟨cycles, reason⟩ := Prod.mk.inj seen
  cases outcome with
  | stalled reported =>
      cases shown
      obtain ⟨sound, _, stalled⟩ := outcome_justified ran returned
      obtain ⟨grounded, before, won, after, parts, _, _, first⟩ := stalled report rfl
      refine ⟨lookout, report, ran, returned, cycles, grounded, (sound nofun).1, reason, before,
        won, after, parts, ?_⟩
      have unused : ∀ won, Note.requested .other .stalled won ∉
          noted (start impatient (.ofSize 2 .origin) .origin) overtaken := by
        rw [noted_eq]
        decide
      refine Classical.byContradiction fun none => ?_
      have recorded := (first unused).mpr fun reason member => none ⟨reason, member⟩
      rw [reason] at recorded
      contradiction
  | stopped | failed fault => contradiction

end Lookout

end Contention

import Contention.Proofs.Monitor.Lookout

namespace Contention

/-- The counter as it was read, and the time that was looked up for it. -/
structure Reading where
  time : Span
  count : Nat
deriving DecidableEq, Repr

inductive Sight where
  | timed (time : Span)
  | counted (total : Nat)
deriving DecidableEq, Repr

namespace Sight

def time? : Sight → Option Span
  | .timed time => some time
  | .counted _ => none

def count? : Sight → Option Nat
  | .timed _ => none
  | .counted total => some total

end Sight

/-- Times and counts in pairs, each in the order in which they were read. -/
def readings (sights : List Sight) : List Reading :=
  List.zipWith Reading.mk (sights.filterMap Sight.time?) (sights.filterMap Sight.count?)

def StoodStill (timeout : Span) (total : Nat) (readings : List Reading) : Prop :=
  ∃ early first middle last, readings = early ++ first :: (middle ++ [last]) ∧
    first.time.nanos + timeout.nanos ≤ last.time.nanos ∧
    ∀ reading ∈ first :: (middle ++ [last]), reading.count = total

theorem Instant.since_mono {sooner later : Instant} (start : Instant) (order : sooner ≤ later) :
    sooner.since start ≤ later.since start := by
  have gaps := Nat.sub_le_sub_right order start.nanos
  unfold since
  split <;> split
  · exact gaps
  · rename_i fits _
    exact Nat.le_pred_of_lt fits
  · rename_i long fits
    exact absurd (Nat.lt_of_le_of_lt gaps fits) long
  · exact Nat.le_refl _

namespace Stall.Detector

variable {detector : Detector} {timeout time : Span} {count : Nat} {readings : List Reading}

/-- A detector that has taken some readings and has not fired. -/
structure Follows (timeout : Span) (detector : Detector) (readings : List Reading) : Prop where
  state : detector.state = .watching
  timeout : detector.timeout = timeout
  since : ∃ early first later, readings = early ++ first :: later ∧
    first.time = detector.lastChange ∧
    ∀ reading ∈ first :: later, reading.count = detector.lastSeen

theorem follows_start (timeout : Span) (count : Nat) :
    Follows timeout (start timeout count .zero) [⟨.zero, count⟩] := by
  refine ⟨rfl, rfl, [], ⟨.zero, count⟩, [], rfl, rfl, ?_⟩
  intro reading member
  cases List.mem_singleton.mp member
  rfl

theorem Follows.observe (follows : Follows timeout detector readings)
    (ordered : detector.lastChange ≤ time) :
    ((detector.observe time count).1.state = .stalled ∧
      StoodStill timeout count (readings ++ [⟨time, count⟩])) ∨
    Follows timeout (detector.observe time count).1 (readings ++ [⟨time, count⟩]) ∧
      (detector.observe time count).1.lastChange ≤ time := by
  obtain ⟨state, same, early, first, later, rfl, start, equal⟩ := follows
  have longer (fits : count = detector.lastSeen) :
      ∀ reading ∈ first :: (later ++ [⟨time, count⟩]), reading.count = detector.lastSeen := by
    rw [← List.cons_append]
    exact List.forall_mem_append.mpr ⟨equal, List.forall_mem_singleton.mpr fits⟩
  rw [List.append_assoc, List.cons_append]
  simp only [Detector.observe, state]
  split
  · refine .inr ⟨⟨rfl, same, early ++ first :: later, ⟨time, count⟩, [], ?_, rfl, ?_⟩,
      Nat.le_refl _⟩
    · rw [List.append_assoc, List.cons_append]
    · exact List.forall_mem_singleton.mpr rfl
  · rename_i flat
    have flat := Decidable.not_not.mp flat
    split
    · rename_i long
      refine .inl ⟨rfl, early, first, later, ⟨time, count⟩, rfl, ?_,
        fun reading member => (longer flat reading member).trans flat.symm⟩
      rw [start, Nat.add_comm, ← same]
      exact (Nat.le_sub_iff_add_le ordered).mp long
    · exact .inr ⟨⟨rfl, same, early, first, _, rfl, start, longer flat⟩, ordered⟩

end Stall.Detector

namespace Lookout

variable {lookout next : Lookout} {move : Move} {settings : Monitor.Settings}
  {seen : List Sight} {times : List Span} {counts : List Nat}

def sights (lookout : Lookout) : Move → List Sight
  | .watch =>
      match lookout.monitor.stage with
      | .starting => [.timed .zero]
      | .opening | .reading => [.counted lookout.signals.total]
      | .judging _ => [.timed (lookout.clock.since lookout.monitor.epoch)]
      | _ => []
  | .record | .stop _ | .turn _ | .wait _ => []

structure OnWatch (lookout : Lookout) (times : List Span) (counts : List Nat) : Prop where
  paired : times.length = counts.length
  follows : Stall.Detector.Follows lookout.monitor.settings.stallTimeout lookout.monitor.detector
    (List.zipWith Reading.mk times counts)
  past : lookout.monitor.detector.lastChange ≤ lookout.clock.since lookout.monitor.epoch

/-- The readings bear a report out. -/
structure Grounded (settings : Monitor.Settings) (report : Stall.Report)
    (readings : List Reading) : Prop where
  stood : StoodStill settings.stallTimeout report.total readings
  cycles : report.cycles = (WaitGraph.ofSnapshots report.workers).cycles

def Read (lookout : Lookout) (times : List Span) (counts : List Nat) : Prop :=
  match lookout.monitor.stage with
  | .starting => times = [] ∧ counts = []
  | .opening => times = [.zero] ∧ counts = []
  | .ready | .sleeping _ | .reading => lookout.OnWatch times counts
  | .judging count => ∃ earlier, counts = earlier ++ [count] ∧ lookout.OnWatch times earlier
  | .capturing count =>
      StoodStill lookout.monitor.settings.stallTimeout count (List.zipWith Reading.mk times counts)
  | .requesting report | .finished (.stalled report) =>
      Grounded lookout.monitor.settings report (List.zipWith Reading.mk times counts)
  | .finished _ => True

structure Vigil (settings : Monitor.Settings) (lookout : Lookout) (seen : List Sight) : Prop where
  settings : lookout.monitor.settings = settings
  read : lookout.Read (seen.filterMap Sight.time?) (seen.filterMap Sight.count?)

theorem vigil_start (settings : Monitor.Settings) (board : Board) (clock : Instant) :
    Vigil settings (start settings board clock) [] := ⟨rfl, rfl, rfl⟩

theorem OnWatch.later (onWatch : lookout.OnWatch times counts)
    (monitor : next.monitor = lookout.monitor) (clock : lookout.clock ≤ next.clock) :
    next.OnWatch times counts := by
  obtain ⟨paired, follows, past⟩ := onWatch
  refine ⟨paired, by rwa [monitor], ?_⟩
  rw [monitor]
  exact Nat.le_trans past (Instant.since_mono _ clock)

theorem Read.later (read : lookout.Read times counts) (monitor : next.monitor = lookout.monitor)
    (clock : lookout.clock ≤ next.clock) : next.Read times counts := by
  unfold Read at read ⊢
  rw [monitor]
  cases stage : lookout.monitor.stage with
  | ready | sleeping | reading =>
      rw [stage] at read
      exact OnWatch.later read monitor clock
  | judging count =>
      rw [stage] at read
      obtain ⟨earlier, parts, onWatch⟩ := read
      exact ⟨earlier, parts, onWatch.later monitor clock⟩
  | finished outcome =>
      rw [stage] at read
      cases outcome <;> exact read
  | starting | opening | capturing | requesting =>
      rw [stage] at read
      exact read

theorem OnWatch.judge (onWatch : lookout.OnWatch times counts) (count : Nat) :
    let time := lookout.clock.since lookout.monitor.epoch
    let detector := (lookout.monitor.detector.observe time count).1
    (detector.state = .stalled ∧ StoodStill lookout.monitor.settings.stallTimeout count
      (List.zipWith Reading.mk (times ++ [time]) (counts ++ [count]))) ∨
    OnWatch { lookout with monitor := { lookout.monitor with detector, stage := .ready } }
      (times ++ [time]) (counts ++ [count]) := by
  intro time detector
  have more : List.zipWith Reading.mk (times ++ [time]) (counts ++ [count]) =
      List.zipWith Reading.mk times counts ++ [⟨time, count⟩] := by
    rw [List.zipWith_append onWatch.paired]
    rfl
  rcases onWatch.follows.observe onWatch.past with ⟨stalled, stood⟩ | ⟨follows, past⟩
  · exact .inl ⟨stalled, more ▸ stood⟩
  · refine .inr ⟨?_, more ▸ follows, past⟩
    rw [List.length_append, List.length_append, onWatch.paired]
    rfl

theorem Vigil.watch (vigil : Vigil settings lookout seen)
    (moved : lookout.after .watch = some next) :
    Vigil settings next (seen ++ lookout.sights .watch) := by
  obtain ⟨step, stepped, rfl⟩ := Option.map_eq_some_iff.mp moved
  obtain ⟨same, read⟩ := vigil
  have turns := Monitor.step_turns stepped
  generalize step.monitor = monitor, step.signals = signals at turns
  unfold Read at read
  cases turns with
  | started stage =>
      rw [stage] at read
      refine ⟨same, ?_⟩
      rw [List.filterMap_append, List.filterMap_append, read.1, read.2, sights, stage]
      exact ⟨rfl, rfl⟩
  | opened stage =>
      rw [stage] at read
      refine ⟨same, ?_⟩
      rw [List.filterMap_append, List.filterMap_append, read.1, read.2, sights, stage]
      exact ⟨rfl, Stall.Detector.follows_start _ _, Nat.zero_le _⟩
  | slept deadline stage | waited deadline stage =>
      rw [stage] at read
      refine ⟨same, ?_⟩
      rw [sights, stage, List.append_nil]
      exact ⟨read.paired, read.follows, read.past⟩
  | broke fault stage | woken deadline reason stage =>
      exact ⟨same, trivial⟩
  | read stage =>
      rw [stage] at read
      refine ⟨same, ?_⟩
      simp only [sights, stage, List.filterMap_append, List.filterMap_cons, List.filterMap_nil,
        Sight.time?, Sight.count?, List.append_nil]
      exact ⟨_, rfl, read.paired, read.follows, read.past⟩
  | passed count detector stage observed calm =>
      rw [stage] at read
      obtain ⟨earlier, parts, onWatch⟩ := read
      refine ⟨same, ?_⟩
      simp only [sights, stage, List.filterMap_append, List.filterMap_cons, List.filterMap_nil,
        Sight.time?, Sight.count?, List.append_nil, parts]
      cases observed
      rcases onWatch.judge count with ⟨stalled, _⟩ | still
      · exact absurd stalled calm
      · exact still
  | fired count detector stage observed stalled =>
      rw [stage] at read
      obtain ⟨earlier, parts, onWatch⟩ := read
      refine ⟨same, ?_⟩
      simp only [sights, stage, List.filterMap_append, List.filterMap_cons, List.filterMap_nil,
        Sight.time?, Sight.count?, List.append_nil, parts]
      cases observed
      rcases onWatch.judge count with ⟨_, stood⟩ | still
      · exact stood
      · rw [still.follows.state] at stalled
        contradiction
  | captured count stage =>
      rw [stage] at read
      refine ⟨same, ?_⟩
      rw [sights, stage, List.append_nil]
      exact ⟨read, rfl⟩
  | requested report stage =>
      rw [stage] at read
      refine ⟨same, ?_⟩
      rw [sights, stage, List.append_nil]
      exact read

theorem Vigil.after (vigil : Vigil settings lookout seen)
    (moved : lookout.after move = some next) :
    Vigil settings next (seen ++ lookout.sights move) := by
  cases move with
  | watch => exact vigil.watch moved
  | record | stop reason | turn board =>
      cases moved
      rw [sights, List.append_nil]
      exact ⟨vigil.settings, vigil.read.later rfl (Nat.le_refl _)⟩
  | wait nanos =>
      cases moved
      rw [sights, List.append_nil]
      exact ⟨vigil.settings, vigil.read.later rfl (Nat.le_add_right _ _)⟩

end Lookout

end Contention

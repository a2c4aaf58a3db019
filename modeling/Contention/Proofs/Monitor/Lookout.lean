import Contention.Monitor
import Contention.Proofs.Runs

namespace Contention

inductive Caller where
  | monitor
  | other
deriving DecidableEq, Repr

inductive Note where
  /-- The monitor's wait has ended, with a stop or because its time is up. -/
  | waited (stopped : Bool)
  | requested (caller : Caller) (reason : EndReason) (won : Bool)
deriving DecidableEq, Repr

namespace Note

def winner? : Note → Option (Caller × EndReason)
  | .requested caller reason true => some (caller, reason)
  | _ => none

def isOwn : Note → Bool
  | .requested .monitor _ _ => true
  | _ => false

def isForeign : Note → Bool
  | .requested .other _ _ => true
  | _ => false

end Note

def winners (log : List Note) : List (Caller × EndReason) := log.filterMap Note.winner?

variable {signals : Signals} {log : List Note} {caller : Caller} {reason : EndReason}

theorem winners_append (log more : List Note) :
    winners (log ++ more) = winners log ++ winners more :=
  List.filterMap_append

theorem mem_winners_iff :
    (caller, reason) ∈ winners log ↔ .requested caller reason true ∈ log := by
  rw [winners, List.mem_filterMap]
  constructor
  · rintro ⟨_ | ⟨_, _, _ | _⟩, member, found⟩
    · contradiction
    · contradiction
    · cases found
      exact member
  · exact fun member => ⟨_, member, rfl⟩

/-- The signals show the request that has won. -/
structure Attested (signals : Signals) (log : List Note) : Prop where
  agree : signals.stopped = signals.reason.isSome
  named : (winners log).map Prod.snd = signals.reason.toList

theorem attested_fresh : Attested {} [] := ⟨rfl, rfl⟩

theorem Attested.undecided (attested : Attested signals log) (unset : signals.reason = none) :
    winners log = [] := by
  have named := attested.named
  rw [unset] at named
  exact List.map_eq_nil_iff.mp named

theorem Attested.decided (attested : Attested signals log)
    (recorded : signals.reason = some reason) : ∃ caller, winners log = [(caller, reason)] := by
  have named := attested.named
  rw [recorded, Option.toList_some, List.map_eq_singleton_iff] at named
  obtain ⟨⟨caller, _⟩, alone, rfl⟩ := named
  exact ⟨caller, alone⟩

theorem Attested.recorded (attested : Attested signals log)
    (winner : .requested caller reason true ∈ log) : signals.reason = some reason := by
  have member := List.mem_map_of_mem (f := Prod.snd) (mem_winners_iff.mpr winner)
  rw [attested.named, Option.mem_toList] at member
  exact member

theorem Attested.append (attested : Attested signals log) {notes : List Note}
    (silent : winners notes = []) : Attested signals (log ++ notes) where
  agree := attested.agree
  named := by rw [winners_append, silent, List.append_nil, attested.named]

theorem Attested.request (attested : Attested signals log) (caller : Caller) (reason : EndReason) :
    Attested (signals.halt reason).signals
      (log ++ [.requested caller reason (signals.halt reason).won]) := by
  have named := attested.named
  unfold Signals.halt
  cases recorded : signals.reason with
  | none =>
      refine ⟨rfl, ?_⟩
      rw [winners_append, List.map_append, named, recorded]
      rfl
  | some existing => exact attested.append rfl

theorem Attested.record (attested : Attested signals log) : Attested signals.record log :=
  ⟨attested.agree, attested.named⟩

theorem Signals.reason_of_poll {deadline now : Instant} {found : Option EndReason}
    (polled : signals.poll deadline now = some found) : signals.reason = found := by
  unfold poll at polled
  split at polled
  · rename_i recorded
    exact recorded.trans (Option.some.inj polled)
  · rename_i unset
    split at polled
    · exact unset.trans (Option.some.inj polled)
    · contradiction

structure Lookout where
  monitor : Monitor
  signals : Signals := {}
  board : Board
  clock : Instant

namespace Lookout

inductive Move where
  | watch
  | record
  | stop (reason : EndReason)
  | turn (board : Board)
  | wait (nanos : Nat)

def start (settings : Monitor.Settings) (board : Board) (clock : Instant) : Lookout where
  monitor := .create settings
  board
  clock

def after (lookout : Lookout) : Move → Option Lookout
  | .watch =>
      (lookout.monitor.step lookout.board lookout.signals lookout.clock).map fun next =>
        { lookout with monitor := next.monitor, signals := next.signals }
  | .record => some { lookout with signals := lookout.signals.record }
  | .stop reason => some { lookout with signals := (lookout.signals.halt reason).signals }
  | .turn board => some { lookout with board }
  | .wait nanos => some { lookout with clock := { nanos := lookout.clock.nanos + nanos } }

def notes (lookout : Lookout) : Move → List Note
  | .watch =>
      match lookout.monitor.stage with
      | .sleeping deadline =>
          (lookout.signals.poll deadline lookout.clock).toList.map fun found => .waited found.isSome
      | .requesting _ =>
          [.requested .monitor .stalled (lookout.signals.halt .stalled).won]
      | _ => []
  | .stop reason => [.requested .other reason (lookout.signals.halt reason).won]
  | .record | .turn _ | .wait _ => []

end Lookout

namespace Monitor

variable {monitor : Monitor} {board : Board} {now : Instant}

/-- What a step makes of the monitor and of the signals. -/
inductive Turns (monitor : Monitor) (board : Board) (signals : Signals) (now : Instant) :
    Monitor → Signals → Prop
  | started (stage : monitor.stage = .starting) :
      Turns monitor board signals now { monitor with epoch := now, stage := .opening } signals
  | opened (stage : monitor.stage = .opening) :
      Turns monitor board signals now
        { monitor with
          detector := .start monitor.settings.stallTimeout signals.total .zero
          stage := .ready } signals
  | slept (deadline : Instant) (stage : monitor.stage = .ready)
      (soon : now.after monitor.settings.sampleInterval = .ok deadline) :
      Turns monitor board signals now { monitor with stage := .sleeping deadline } signals
  | broke (fault : Fault) (stage : monitor.stage = .ready)
      (late : now.after monitor.settings.sampleInterval = .error fault) :
      Turns monitor board signals now { monitor with stage := .finished (.failed fault) } signals
  | waited (deadline : Instant) (stage : monitor.stage = .sleeping deadline)
      (ranOut : signals.poll deadline now = some none) :
      Turns monitor board signals now { monitor with stage := .reading } signals
  | woken (deadline : Instant) (reason : EndReason) (stage : monitor.stage = .sleeping deadline)
      (found : signals.poll deadline now = some (some reason)) :
      Turns monitor board signals now
        { monitor with detector := monitor.detector.close, stage := .finished .stopped } signals
  | read (stage : monitor.stage = .reading) :
      Turns monitor board signals now { monitor with stage := .judging signals.total } signals
  | passed (count : Nat) (detector : Stall.Detector) (stage : monitor.stage = .judging count)
      (observed : (monitor.detector.observe (now.since monitor.epoch) count).1 = detector)
      (calm : detector.state ≠ .stalled) :
      Turns monitor board signals now { monitor with detector, stage := .ready } signals
  | fired (count : Nat) (detector : Stall.Detector) (stage : monitor.stage = .judging count)
      (observed : (monitor.detector.observe (now.since monitor.epoch) count).1 = detector)
      (stalled : detector.state = .stalled) :
      Turns monitor board signals now { monitor with detector, stage := .capturing count } signals
  | captured (count : Nat) (stage : monitor.stage = .capturing count) :
      Turns monitor board signals now
        { monitor with
          stage := .requesting (.ofSnapshots (board.snapshots now) monitor.settings.stallTimeout
            monitor.detector.idle count) } signals
  | requested (report : Stall.Report) (stage : monitor.stage = .requesting report) :
      Turns monitor board signals now
        { monitor with
          detector := monitor.detector.close
          stage := .finished (.stalled report) } (signals.halt .stalled).signals

theorem step_turns {next : Monitor.Step} (stepped : monitor.step board signals now = some next) :
    monitor.Turns board signals now next.monitor next.signals := by
  cases stage : monitor.stage with
  | starting =>
      simp only [step, stage] at stepped
      cases stepped
      exact .started stage
  | opening =>
      simp only [step, stage] at stepped
      cases stepped
      exact .opened stage
  | reading =>
      simp only [step, stage] at stepped
      cases stepped
      exact .read stage
  | capturing count =>
      simp only [step, stage] at stepped
      cases stepped
      exact .captured count stage
  | requesting report =>
      simp only [step, stage] at stepped
      cases stepped
      exact .requested report stage
  | ready =>
      simp only [step, stage] at stepped
      split at stepped <;> cases stepped
      · exact .slept _ stage ‹_›
      · exact .broke _ stage ‹_›
  | sleeping deadline =>
      simp only [step, stage] at stepped
      split at stepped
      · contradiction
      · cases stepped
        exact .waited deadline stage ‹_›
      · cases stepped
        exact .woken deadline _ stage ‹_›
  | judging count =>
      simp only [step, stage] at stepped
      split at stepped <;> cases stepped
      · exact .fired count _ stage rfl ‹_›
      · exact .passed count _ stage rfl ‹_›
  | finished outcome =>
      simp only [step, stage] at stepped
      contradiction

end Monitor

def Unasked (log : List Note) : Prop := ∀ note ∈ log, note.isOwn = false

def Foreign (log : List Note) : Prop := ∀ note ∈ log, note.isForeign = true

theorem Foreign.unasked (foreign : Foreign log) : Unasked log := by
  intro note member
  have other := foreign note member
  rcases note with _ | ⟨_ | _, _, _⟩
  · rfl
  · contradiction
  · rfl

theorem Foreign.append {more : List Note} (foreign : Foreign log) (others : Foreign more) :
    Foreign (log ++ more) := List.forall_mem_append.mpr ⟨foreign, others⟩

theorem Unasked.append {more : List Note} (unasked : Unasked log) (others : Unasked more) :
    Unasked (log ++ more) := List.forall_mem_append.mpr ⟨unasked, others⟩

/-- The monitor's last wait has run out before any request had won. -/
structure TimedOut (log before since : List Note) : Prop where
  parts : log = before ++ .waited false :: since
  unasked : Unasked before
  undecided : winners before = []

/-- The monitor's request comes after its last wait, and wins unless another has won in
between. -/
structure Declared (log before middle : List Note) (won : Bool) (after : List Note) : Prop where
  timedOut : TimedOut log before (middle ++ .requested .monitor .stalled won :: after)
  foreign : Foreign middle
  first : won = (winners middle).isEmpty
  rest : Foreign after

/-- The monitor's last wait has ended because a request had won. -/
structure Woken (log before after : List Note) : Prop where
  parts : log = before ++ .waited true :: after
  unasked : Unasked before
  decided : winners before ≠ []
  rest : Foreign after

/-- The log of a monitor that stands at some stage. -/
def Course (log : List Note) : Monitor.Stage → Prop
  | .starting | .opening | .ready | .sleeping _ | .finished (.failed _) => Unasked log
  | .reading | .judging _ | .capturing _ | .requesting _ =>
      ∃ before since, TimedOut log before since ∧ Foreign since
  | .finished .stopped => ∃ before after, Woken log before after
  | .finished (.stalled _) => ∃ before middle won after, Declared log before middle won after

theorem TimedOut.append {before since more : List Note} (timedOut : TimedOut log before since) :
    TimedOut (log ++ more) before (since ++ more) where
  parts := by rw [timedOut.parts, List.append_assoc, List.cons_append]
  unasked := timedOut.unasked
  undecided := timedOut.undecided

theorem TimedOut.unasked_of_foreign {before since : List Note}
    (timedOut : TimedOut log before since) (foreign : Foreign since) : Unasked log := by
  rw [timedOut.parts]
  exact timedOut.unasked.append (List.forall_mem_cons.mpr ⟨rfl, foreign.unasked⟩)

theorem Course.append {stage : Monitor.Stage} {more : List Note} (course : Course log stage)
    (others : Foreign more) : Course (log ++ more) stage := by
  cases stage with
  | finished outcome =>
      cases outcome with
      | stalled report =>
          obtain ⟨before, middle, won, after, timedOut, foreign, first, rest⟩ := course
          refine ⟨before, middle, won, after ++ more, ?_, foreign, first, rest.append others⟩
          rw [← List.cons_append, ← List.append_assoc]
          exact timedOut.append
      | stopped =>
          obtain ⟨before, after, parts, unasked, decided, rest⟩ := course
          refine ⟨before, after ++ more, ?_, unasked, decided, rest.append others⟩
          rw [parts, List.append_assoc, List.cons_append]
      | failed fault => exact Unasked.append course others.unasked
  | starting | opening | ready | sleeping => exact Unasked.append course others.unasked
  | reading | judging | capturing | requesting =>
      obtain ⟨before, since, timedOut, foreign⟩ := course
      exact ⟨before, since ++ more, timedOut.append, foreign.append others⟩

namespace Lookout

variable {lookout next : Lookout} {move : Move}

structure Chronicle (lookout : Lookout) (log : List Note) : Prop where
  attested : Attested lookout.signals log
  course : Course log lookout.monitor.stage

theorem chronicle_start (settings : Monitor.Settings) (board : Board) (clock : Instant) :
    (start settings board clock).Chronicle [] := ⟨attested_fresh, nofun⟩

theorem Chronicle.watch (chronicle : lookout.Chronicle log)
    (moved : lookout.after .watch = some next) :
    next.Chronicle (log ++ lookout.notes .watch) := by
  obtain ⟨step, stepped, rfl⟩ := Option.map_eq_some_iff.mp moved
  obtain ⟨attested, course⟩ := chronicle
  have turns := Monitor.step_turns stepped
  generalize step.monitor = monitor, step.signals = signals at turns
  cases turns with
  | started stage | opened stage | slept _ stage | broke _ stage | read stage | fired _ _ stage
  | captured _ stage =>
      simp only [notes, stage, List.append_nil]
      rw [stage] at course
      exact ⟨attested, course⟩
  | passed count detector stage =>
      simp only [notes, stage, List.append_nil]
      rw [stage] at course
      obtain ⟨before, since, timedOut, foreign⟩ := course
      exact ⟨attested, timedOut.unasked_of_foreign foreign⟩
  | waited deadline stage ranOut =>
      simp only [notes, stage, ranOut, Option.toList_some, List.map_cons, List.map_nil]
      rw [stage] at course
      -- A wait runs out only as long as there is no reason: no request has won so far.
      have undecided := attested.undecided (Signals.reason_of_poll ranOut)
      exact ⟨attested.append rfl, log, [], ⟨rfl, course, undecided⟩, nofun⟩
  | woken deadline reason stage found =>
      simp only [notes, stage, found, Option.toList_some, List.map_cons, List.map_nil]
      rw [stage] at course
      obtain ⟨caller, alone⟩ := attested.decided (Signals.reason_of_poll found)
      refine ⟨attested.append rfl, log, [], rfl, course, ?_, nofun⟩
      rw [alone]
      exact List.cons_ne_nil _ _
  | requested report stage =>
      simp only [notes, stage]
      rw [stage] at course
      obtain ⟨before, since, timedOut, foreign⟩ := course
      refine ⟨attested.request .monitor .stalled, before, since, _, [], timedOut.append, foreign,
        ?_, nofun⟩
      -- Whoever has won before the monitor has done so since its wait ran out.
      have same : winners log = winners since := by
        rw [timedOut.parts, winners_append, timedOut.undecided]
        rfl
      rw [← same]
      unfold Signals.halt
      cases recorded : lookout.signals.reason with
      | none => rw [attested.undecided recorded]; rfl
      | some reason =>
          obtain ⟨caller, alone⟩ := attested.decided recorded
          rw [alone]
          rfl

theorem Chronicle.same (chronicle : lookout.Chronicle log)
    (monitor : next.monitor = lookout.monitor) (signals : next.signals = lookout.signals) :
    next.Chronicle log where
  attested := signals ▸ chronicle.attested
  course := monitor ▸ chronicle.course

theorem Chronicle.record (chronicle : lookout.Chronicle log)
    (monitor : next.monitor = lookout.monitor) (signals : next.signals = lookout.signals.record) :
    next.Chronicle log where
  attested := signals ▸ chronicle.attested.record
  course := monitor ▸ chronicle.course

theorem Chronicle.stop (chronicle : lookout.Chronicle log)
    (monitor : next.monitor = lookout.monitor)
    (signals : next.signals = (lookout.signals.halt reason).signals) :
    next.Chronicle (log ++ [.requested .other reason (lookout.signals.halt reason).won]) where
  attested := signals ▸ chronicle.attested.request .other reason
  course := monitor ▸ chronicle.course.append (List.forall_mem_singleton.mpr rfl)

theorem Chronicle.after (chronicle : lookout.Chronicle log)
    (moved : lookout.after move = some next) : next.Chronicle (log ++ lookout.notes move) := by
  cases move with
  | watch => exact chronicle.watch moved
  | stop reason =>
      cases moved
      exact chronicle.stop rfl rfl
  | record =>
      cases moved
      rw [notes, List.append_nil]
      exact chronicle.record rfl rfl
  | turn board | wait nanos =>
      cases moved
      rw [notes, List.append_nil]
      exact chronicle.same rfl rfl

end Lookout

end Contention

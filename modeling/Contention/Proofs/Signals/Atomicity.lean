import Contention.Proofs.Runs
import Contention.Signals.Calls

namespace Contention.Signals

/-! Calls take effect at once.  A call answers, and leaves the signals, as if it had been made
and had returned at one of its steps with nothing in between, although a stop request writes
two cells of which one is read without the lock. -/

/-- What a call makes of the signals, and what it answers, when nothing comes in between. -/
def Ask.effect (signals : Signals) : Ask → Signals × Answer
  | .record => (signals.record, .count signals.record.total)
  | .stop reason => ((signals.halt reason).signals, .truth (signals.halt reason).won)
  | .isStopped => (signals, .truth signals.stopped)
  | .why => (signals, .reason signals.reason)

def withoutReason (signals : Signals) : Signals := { signals with reason := none }

/-- The signals as they are left by the calls that have taken effect: a reason counts once the
flag is set. -/
def settled (signals : Signals) : Signals :=
  if signals.stopped then signals else signals.withoutReason

theorem settled_of_stopped {signals : Signals} (stopped : signals.stopped = true) :
    signals.settled = signals := if_pos stopped

theorem settled_of_unset {signals : Signals} (unset : signals.stopped = false) :
    signals.settled = signals.withoutReason := by
  rw [settled, unset]
  rfl

theorem settled_record (signals : Signals) : signals.record.settled = signals.settled.record := by
  unfold settled record
  split <;> rfl

@[simp] theorem total_settled (signals : Signals) : signals.settled.total = signals.total := by
  unfold settled
  split <;> rfl

@[simp] theorem stopped_settled (signals : Signals) :
    signals.settled.stopped = signals.stopped := by
  unfold settled
  split <;> rfl

theorem eq_of_settled {signals later : Signals} (settled : later.settled = signals)
    (stopped : signals.stopped = true) : later = signals := by
  rw [← settled, stopped_settled] at stopped
  rw [← settled, settled_of_stopped stopped]

theorem settled_of_agree {signals : Signals} (agree : signals.stopped = signals.reason.isSome) :
    signals.settled = signals := by
  cases stopped : signals.stopped with
  | true => exact settled_of_stopped stopped
  | false =>
      rw [stopped, eq_comm, Option.isSome_eq_false_iff, Option.isNone_iff_eq_none] at agree
      rw [settled_of_unset stopped, withoutReason, ← agree]

namespace Call.Stage

def answer? : Call.Stage → Option Answer
  | .wake => some (.truth true)
  | .unlock answer => some answer
  | .leave answer => some answer
  | .returned answer => some answer
  | _ => none

def ask? : Call.Stage → Option Ask
  | .count => some .record
  | .test => some .isStopped
  | .lock (some reason) => some (.stop reason)
  | .lock none => some .why
  | .look (some reason) => some (.stop reason)
  | .look none => some .why
  | .write reason => some (.stop reason)
  | .flag reason => some (.stop reason)
  | _ => none

def isInside : Call.Stage → Bool
  | .look _ => true
  | .write _ => true
  | .flag _ => true
  | .wake => true
  | .unlock _ => true
  | _ => false

end Call.Stage

theorem Ask.answer?_entry (ask : Ask) : ask.entry.answer? = none := by
  cases ask <;> rfl

theorem Ask.ask?_entry (ask : Ask) : ask.entry.ask? = some ask := by
  cases ask <;> rfl

theorem Ask.isInside_entry (ask : Ask) : ask.entry.isInside = false := by
  cases ask <;> rfl

namespace Traffic

variable {traffic next : Traffic} {number other thread : Nat} {ask theirs : Ask} {call new : Call}
  {stage moved still : Call.Stage} {signals later : Signals} {holder heir : Option Nat}

theorem stage?_eq (found : traffic.calls[number]? = some call) :
    traffic.stage? number = some call.stage := by
  rw [stage?, found, Option.map_some]

inductive Steps (signals : Signals) (holder : Option Nat) (number : Nat) :
    Call.Stage → Call.Stage → Signals → Option Nat → Prop
  | count :
      Steps signals holder number .count (.leave (.count signals.record.total)) signals.record
        holder
  | test :
      Steps signals holder number .test (.leave (.truth signals.stopped)) signals holder
  | lock (request : Option EndReason) (unheld : holder = none) :
      Steps signals holder number (.lock request) (.look request) signals (some number)
  | read :
      Steps signals holder number (.look none) (.unlock (.reason signals.reason)) signals holder
  | clear (reason : EndReason) (unwritten : signals.reason = none) :
      Steps signals holder number (.look (some reason)) (.write reason) signals holder
  | late (reason existing : EndReason) (written : signals.reason = some existing) :
      Steps signals holder number (.look (some reason)) (.unlock (.truth false)) signals holder
  | write (reason : EndReason) :
      Steps signals holder number (.write reason) (.flag reason)
        { signals with reason := some reason } holder
  | flag (reason : EndReason) :
      Steps signals holder number (.flag reason) .wake { signals with stopped := true } holder
  | wake :
      Steps signals holder number .wake (.unlock (.truth true)) signals holder
  | unlock (answer : Answer) :
      Steps signals holder number (.unlock answer) (.leave answer) signals none
  | leave (answer : Answer) :
      Steps signals holder number (.leave answer) (.returned answer) signals holder

theorem calls_goTo (found : traffic.calls[number]? = some call) :
    (traffic.goTo number stage).calls[other]? =
      if other = number then some { call with stage } else traffic.calls[other]? := by
  by_cases same : other = number
  · rw [if_pos same, same, goTo, List.getElem?_modify_eq, found]
    rfl
  · rw [if_neg same]
    exact List.getElem?_modify_ne _ _ (Ne.symm same)

theorem step_cases (stepped : traffic.step number = some next) :
    ∃ call stage, traffic.calls[number]? = some call ∧
      Steps traffic.signals traffic.holder number call.stage stage next.signals next.holder ∧
      next.calls = (traffic.goTo number stage).calls := by
  cases found : traffic.calls[number]? with
  | none =>
      simp only [step, stage?, found, Option.map_none] at stepped
      contradiction
  | some call =>
      refine ⟨call, ?_⟩
      simp only [step, stage?_eq found] at stepped
      cases stage : call.stage with
      | lock request =>
          simp only [stage] at stepped
          cases unheld : traffic.holder with
          | none =>
              simp only [unheld] at stepped
              cases stepped
              exact ⟨_, rfl, .lock request rfl, rfl⟩
          | some other =>
              simp only [unheld] at stepped
              contradiction
      | look request =>
          cases request with
          | none =>
              simp only [stage] at stepped
              cases stepped
              exact ⟨_, rfl, .read, rfl⟩
          | some reason =>
              simp only [stage] at stepped
              cases recorded : traffic.signals.reason with
              | none =>
                  simp only [recorded] at stepped
                  cases stepped
                  exact ⟨_, rfl, .clear reason recorded, rfl⟩
              | some existing =>
                  simp only [recorded] at stepped
                  cases stepped
                  exact ⟨_, rfl, .late reason existing recorded, rfl⟩
      | returned answer =>
          simp only [stage] at stepped
          contradiction
      | count | test | write reason | flag reason | wake | unlock answer | leave answer =>
          simp only [stage] at stepped
          cases stepped
          exact ⟨_, rfl, by constructor, rfl⟩

structure Fits (signals : Signals) (holder : Option Nat) (number : Nat) (ask : Ask)
    (stage : Call.Stage) : Prop where
  asked : ∀ meant, stage.ask? = some meant → ask = meant
  locked : stage.isInside = true ↔ holder = some number
  unwritten : ∀ reason, stage = .write reason → signals.reason = none ∧ signals.stopped = false
  written : ∀ reason, stage = .flag reason →
    signals.reason = some reason ∧ signals.stopped = false

theorem Fits.step (fits : Fits signals holder number ask stage)
    (steps : Steps signals holder number stage moved later heir)
    (agree : stage.isInside = true → (∀ reason, stage ≠ .flag reason) →
      signals.stopped = signals.reason.isSome) :
    Fits later heir number ask moved := by
  obtain ⟨asked, locked, unwritten, written⟩ := fits
  cases steps with
  | clear reason none =>
      refine ⟨asked, locked, fun _ _ => ⟨none, ?_⟩, nofun⟩
      rw [agree rfl nofun, none]
      rfl
  | write reason =>
      refine ⟨asked, locked, nofun, ?_⟩
      rintro _ ⟨⟩
      exact ⟨rfl, (unwritten reason rfl).2⟩
  | unlock answer => exact ⟨nofun, ⟨nofun, nofun⟩, nofun, nofun⟩
  | lock request unheld =>
      refine ⟨fun meant same => asked meant ?_, ⟨fun _ => rfl, fun _ => rfl⟩, nofun, nofun⟩
      cases request <;> exact same
  | count | test | read | late | flag | wake | leave => exact ⟨nofun, locked, nofun, nofun⟩

theorem Fits.foreign (fits : Fits signals holder other theirs still)
    (own : Fits signals holder number ask stage) (apart : other ≠ number)
    (steps : Steps signals holder number stage moved later heir) :
    Fits later heir other theirs still := by
  -- Only the moving call may have the lock when it is inside, so no other sees its writes.
  have alone : stage.isInside = true → ¬ still.isInside = true := by
    intro inside again
    cases (own.locked.mp inside).symm.trans (fits.locked.mp again)
    exact apart rfl
  obtain ⟨asked, locked, unwritten, written⟩ := fits
  have outside (inside : stage.isInside = true) (kept : still.isInside = true ↔ heir = some other) :
      Fits later heir other theirs still := by
    have none := alone inside
    exact ⟨asked, kept, fun reason same => absurd (by rw [same]; rfl) none,
      fun reason same => absurd (by rw [same]; rfl) none⟩
  cases steps with
  | lock request unheld =>
      refine ⟨asked, ⟨fun inside => ?_, fun same => ?_⟩, unwritten, written⟩
      · rw [unheld] at locked
        exact absurd (locked.mp inside) nofun
      · exact absurd (Option.some.inj same).symm apart
  | unlock answer => exact outside rfl ⟨fun inside => absurd inside (alone rfl), nofun⟩
  | write reason => exact outside rfl locked
  | flag reason => exact outside rfl locked
  | count | test | read | clear | late | wake | leave => exact ⟨asked, locked, unwritten, written⟩

/-- A step changes nothing that others can tell, or its call takes effect with it. -/
theorem Steps.effect (steps : Steps signals holder number stage moved later heir)
    (fits : Fits signals holder number ask stage)
    (agree : stage.isInside = true → (∀ reason, stage ≠ .flag reason) →
      signals.stopped = signals.reason.isSome) :
    (moved.answer? = stage.answer? ∧ later.settled = signals.settled) ∨
      (stage.answer? = none ∧ moved.answer? = some (ask.effect signals.settled).2 ∧
        later.settled = (ask.effect signals.settled).1) := by
  cases steps with
  | count =>
      cases fits.asked _ rfl
      refine .inr ⟨rfl, ?_, settled_record signals⟩
      simp only [Call.Stage.answer?, Ask.effect, record, total_settled]
  | test =>
      cases fits.asked _ rfl
      refine .inr ⟨rfl, ?_, rfl⟩
      simp only [Call.Stage.answer?, Ask.effect, stopped_settled]
  | read =>
      cases fits.asked _ rfl
      refine .inr ⟨rfl, ?_, rfl⟩
      rw [settled_of_agree (agree rfl nofun)]
      rfl
  | late reason existing written =>
      cases fits.asked _ rfl
      rw [settled_of_agree (agree rfl nofun)]
      refine .inr ⟨rfl, ?_, ?_⟩ <;> rw [Ask.effect, halt, written]
      rfl
  | write reason =>
      obtain ⟨_, unset⟩ := fits.unwritten reason rfl
      refine .inl ⟨rfl, ?_⟩
      rw [settled_of_unset unset]
      exact settled_of_unset unset
  | flag reason =>
      cases fits.asked _ rfl
      obtain ⟨written, unset⟩ := fits.written reason rfl
      rw [settled_of_unset unset]
      refine .inr ⟨rfl, rfl, ?_⟩
      rw [settled_of_stopped rfl, written]
      rfl
  | lock | clear | wake | unlock | leave => exact .inl ⟨rfl, rfl⟩

theorem Steps.cells (steps : Steps signals holder number stage moved later heir)
    (fits : Fits signals holder number ask stage) :
    (∃ reason, moved = .flag reason) ∨ later.stopped = later.reason.isSome ∨
      ((∀ reason, stage ≠ .flag reason) ∧ later.stopped = signals.stopped ∧
        later.reason = signals.reason) := by
  cases steps with
  | write reason => exact .inl ⟨reason, rfl⟩
  | flag reason =>
      obtain ⟨written, _⟩ := fits.written reason rfl
      exact .inr (.inl (by rw [written]; rfl))
  | _ => exact .inr (.inr ⟨nofun, rfl, rfl⟩)

/-- Whoever has the lock may be between its two writes; at all other times the flag says
whether there is a reason. -/
structure Sound (traffic : Traffic) : Prop where
  fits : ∀ number call, traffic.calls[number]? = some call →
    Fits traffic.signals traffic.holder number call.ask call.stage
  held : ∀ number, traffic.holder = some number → number < traffic.calls.length
  agree : traffic.signals.stopped = traffic.signals.reason.isSome ∨
    ∃ number reason, traffic.stage? number = some (.flag reason)

theorem sound_fresh : ({} : Traffic).Sound where
  fits _ _ found := by contradiction
  held _ holder := by contradiction
  agree := .inl rfl

theorem Sound.agrees (sound : traffic.Sound) (found : traffic.calls[number]? = some call)
    (inside : call.stage.isInside = true) (apart : ∀ reason, call.stage ≠ .flag reason) :
    traffic.signals.stopped = traffic.signals.reason.isSome := by
  rcases sound.agree with agree | ⟨other, reason, flagging⟩
  · exact agree
  · obtain ⟨theirs, known, stage⟩ := Option.map_eq_some_iff.mp flagging
    have holder := (sound.fits number call found).locked.mp inside
    have again := (sound.fits other theirs known).locked.mp (by rw [stage]; rfl)
    cases holder.symm.trans again
    cases found.symm.trans known
    exact absurd stage (apart reason)

theorem call_eq_some (made : traffic.call thread ask = some next) :
    next = { traffic with calls := traffic.calls ++ [{ thread, ask, stage := ask.entry }] } := by
  unfold Traffic.call at made
  split at made
  · contradiction
  · exact (Option.some.inj made).symm

theorem mem_of_made (found : (traffic.calls ++ [call])[number]? = some new) :
    traffic.calls[number]? = some new ∨ number = traffic.calls.length ∧ new = call := by
  rw [List.getElem?_append] at found
  split at found
  · exact .inl found
  · obtain ⟨inside, same⟩ := List.getElem?_eq_some_iff.mp found
    rw [List.length_singleton] at inside
    rw [List.getElem_singleton] at same
    exact .inr ⟨by omega, same.symm⟩

theorem Sound.made (sound : traffic.Sound) (made : traffic.call thread ask = some next) :
    next.Sound := by
  cases call_eq_some made
  refine ⟨fun number call found => ?_, fun number holder => ?_, ?_⟩
  · rcases mem_of_made found with old | ⟨rfl, rfl⟩
    · exact sound.fits number call old
    · refine ⟨fun meant same => ?_, ⟨fun inside => ?_, fun holder => ?_⟩, ?_, ?_⟩
      · rw [Ask.ask?_entry] at same
        exact Option.some.inj same
      · rw [Ask.isInside_entry] at inside
        contradiction
      · exact absurd (sound.held _ holder) (Nat.lt_irrefl _)
      · cases ask <;> exact nofun
      · cases ask <;> exact nofun
  · have old := sound.held number holder
    rw [List.length_append]
    exact Nat.lt_add_right _ old
  · rcases sound.agree with agree | ⟨number, reason, flagging⟩
    · exact .inl agree
    · obtain ⟨call, found, stage⟩ := Option.map_eq_some_iff.mp flagging
      refine .inr ⟨number, reason, ?_⟩
      rw [← stage]
      exact stage?_eq (List.getElem?_append_left (List.getElem?_eq_some_iff.mp found).1 ▸ found)

theorem Sound.step (sound : traffic.Sound) (stepped : traffic.step number = some next) :
    next.Sound := by
  obtain ⟨call, stage, found, steps, calls⟩ := step_cases stepped
  have mine := sound.fits number call found
  have inside := (List.getElem?_eq_some_iff.mp found).1
  refine ⟨fun other theirs known => ?_, fun other holder => ?_, ?_⟩
  · rw [calls, calls_goTo found] at known
    split at known
    · rename_i same
      cases known
      exact same ▸ mine.step steps (sound.agrees found)
    · rename_i apart
      exact (sound.fits other theirs known).foreign mine apart steps
  · rw [calls, goTo, List.length_modify]
    generalize call.stage = before, next.holder = heir, next.signals = signals at steps holder
    cases steps with
    | lock => exact Option.some.inj holder ▸ inside
    | unlock => contradiction
    | _ => exact sound.held other holder
  · rcases steps.cells mine with ⟨reason, flagging⟩ | agree | ⟨apart, stopped, reason⟩
    · refine .inr ⟨number, reason, ?_⟩
      rw [stage?, calls, calls_goTo found, if_pos rfl, Option.map_some, flagging]
    · exact .inl agree
    · rw [stopped, reason]
      rcases sound.agree with agree | ⟨other, reason, flagging⟩
      · exact .inl agree
      · refine .inr ⟨other, reason, ?_⟩
        have different : other ≠ number := by
          rintro rfl
          rw [stage?_eq found] at flagging
          exact apart reason (Option.some.inj flagging)
        rwa [stage?, calls, calls_goTo found, if_neg different]

/-- What a step of a call does, as it is seen from outside: nothing, or all that the call
does. -/
theorem Sound.effect (sound : traffic.Sound) (stepped : traffic.step number = some next) :
    ∃ call stage, traffic.calls[number]? = some call ∧
      next.calls = (traffic.goTo number stage).calls ∧
      ((stage.answer? = call.stage.answer? ∧ next.signals.settled = traffic.signals.settled) ∨
        (call.stage.answer? = none ∧
          stage.answer? = some (call.ask.effect traffic.signals.settled).2 ∧
          next.signals.settled = (call.ask.effect traffic.signals.settled).1)) := by
  obtain ⟨call, stage, found, steps, calls⟩ := step_cases stepped
  exact ⟨call, stage, found, calls,
    steps.effect (sound.fits number call found) (sound.agrees found)⟩

theorem Sound.after (sound : traffic.Sound) {move : Move}
    (moved : traffic.after move = some next) : next.Sound := by
  cases move with
  | call thread ask => exact sound.made moved
  | step number => exact sound.step moved

end Traffic

end Contention.Signals

import Contention.Stall.Detector
import Mathlib.Data.List.Basic

namespace Contention.Stall

/-- A count and the times at which it is looked at.  A detector starts with the first. -/
structure Samples where
  time : Nat → Span
  count : Nat → Nat

namespace Samples

variable {samples : Samples} {first last final : Nat}

def Ordered (samples : Samples) (last : Nat) : Prop :=
  ∀ place < last, samples.time place ≤ samples.time (place + 1)

def Flat (samples : Samples) (first last : Nat) : Prop :=
  ∀ place ≤ last, first ≤ place → samples.count place = samples.count last

def StandsStill (samples : Samples) (timeout : Span) (last : Nat) : Prop :=
  ∃ first < last, samples.Flat first last ∧
    timeout ≤ (samples.time last).monus (samples.time first)

instance (samples : Samples) (last : Nat) : Decidable (samples.Ordered last) :=
  inferInstanceAs (Decidable (∀ place < last, _))

instance (samples : Samples) (first last : Nat) : Decidable (samples.Flat first last) :=
  inferInstanceAs (Decidable (∀ place ≤ last, _))

instance (samples : Samples) (timeout : Span) (last : Nat) :
    Decidable (samples.StandsStill timeout last) :=
  inferInstanceAs (Decidable (∃ first < last, _))

/-- Where the run of equal counts begins that ends with the last sample. -/
structure Began (samples : Samples) (first last : Nat) : Prop where
  before : first ≤ last
  flat : samples.Flat first last
  earliest : ∀ earlier < first, ¬ samples.Flat earlier last

theorem Ordered.le (ordered : samples.Ordered final) (before : first ≤ last)
    (within : last ≤ final) : samples.time first ≤ samples.time last := by
  induction before with
  | refl => exact Nat.le_refl _
  | step _ ih => exact Nat.le_trans (ih (Nat.le_of_succ_le within)) (ordered _ within)

theorem flat_succ_iff (before : first ≤ last) :
    samples.Flat first (last + 1) ↔
      samples.Flat first last ∧ samples.count (last + 1) = samples.count last := by
  constructor
  · intro flat
    have same := flat last (Nat.le_succ last) before
    exact ⟨fun place within after => (flat place (Nat.le_succ_of_le within) after).trans same.symm,
      same.symm⟩
  · rintro ⟨flat, same⟩ place within after
    rcases Nat.le_or_eq_of_le_succ within with within | rfl
    · exact (flat place within after).trans same.symm
    · rfl

theorem Flat.self (samples : Samples) (last : Nat) : samples.Flat last last :=
  fun _ within after => congrArg samples.count (Nat.le_antisymm within after)

theorem Began.start (samples : Samples) : samples.Began 0 0 where
  before := Nat.le_refl 0
  flat := .self samples 0
  earliest _ before := absurd before (Nat.not_lt_zero _)

theorem Began.continued (began : samples.Began first last)
    (same : samples.count (last + 1) = samples.count last) : samples.Began first (last + 1) where
  before := Nat.le_succ_of_le began.before
  flat := (flat_succ_iff began.before).mpr ⟨began.flat, same⟩
  earliest earlier before flat :=
    began.earliest earlier before
      ((flat_succ_iff (Nat.le_trans (Nat.le_of_lt before) began.before)).mp flat).1

theorem Began.changed (change : samples.count (last + 1) ≠ samples.count last) :
    samples.Began (last + 1) (last + 1) where
  before := Nat.le_refl _
  flat := .self samples (last + 1)
  earliest _ before flat := change ((flat_succ_iff (Nat.le_of_lt_succ before)).mp flat).2

/-- Of the times without a change up to a sample, the one that began first is the longest. -/
theorem Began.standsStill_iff (timeout : Span) (began : samples.Began first last)
    (ordered : samples.Ordered last) :
    samples.StandsStill timeout last ↔
      first < last ∧ timeout ≤ (samples.time last).monus (samples.time first) := by
  constructor
  · rintro ⟨middle, before, flat, long⟩
    have later : first ≤ middle :=
      Nat.le_of_not_lt fun earlier => began.earliest middle earlier flat
    have sooner := ordered.le later (Nat.le_of_lt before)
    exact ⟨Nat.lt_of_le_of_lt later before,
      Nat.le_trans long (Nat.sub_le_sub_left sooner (samples.time last).nanos)⟩
  · rintro ⟨before, long⟩
    exact ⟨first, before, began.flat, long⟩

end Samples

namespace Detector

variable {samples : Samples} {timeout : Span} {last : Nat} {detector : Detector}

inductive Call where
  | observe (now : Span) (count : Nat)
  | close

def call (detector : Detector) : Call → Detector
  | .observe now count => (detector.observe now count).1
  | .close => detector.close

def replay (detector : Detector) (calls : List Call) : Detector := calls.foldl call detector

def watched (timeout : Span) (samples : Samples) : Nat → Detector
  | 0 => start timeout (samples.count 0) (samples.time 0)
  | last + 1 => (watched timeout samples last).call
      (.observe (samples.time (last + 1)) (samples.count (last + 1)))

theorem replay_done (done : detector.state = .done) (calls : List Call) :
    detector.replay calls = detector := by
  have kept : ∀ call, detector.call call = detector := by
    cases detector
    cases done
    rintro (⟨now, count⟩ | _) <;> rfl
  exact List.foldl_fixed' kept calls

structure Tracks (timeout : Span) (samples : Samples) (last : Nat) (detector : Detector) :
    Prop where
  timeout : detector.timeout = timeout
  lastSeen : detector.lastSeen = samples.count last
  now : detector.now = samples.time last
  lastChange : ∃ first, samples.Began first last ∧ detector.lastChange = samples.time first

theorem Tracks.idle (tracks : Tracks timeout samples last detector) :
    ∃ first, samples.Began first last ∧
      detector.idle = (samples.time last).monus (samples.time first) := by
  obtain ⟨first, began, change⟩ := tracks.lastChange
  exact ⟨first, began, by rw [Detector.idle, tracks.now, change]⟩

/-- Whether a detector has fired, and at which sample.  One that has fired is as it was
then. -/
inductive Verdict (timeout : Span) (samples : Samples) (last : Nat) (detector : Detector) :
    Prop where
  | moving (state : detector.state = .watching) (tracks : Tracks timeout samples last detector)
      (never : ∀ place ≤ last, ¬ samples.StandsStill timeout place)
  | still (place : Nat) (before : place ≤ last) (state : detector.state = .stalled)
      (tracks : Tracks timeout samples place detector)
      (stands : samples.StandsStill timeout place)
      (first : ∀ earlier < place, ¬ samples.StandsStill timeout earlier)

theorem verdict_start (timeout : Span) (samples : Samples) :
    Verdict timeout samples 0 (start timeout (samples.count 0) (samples.time 0)) := by
  refine .moving rfl ⟨rfl, rfl, rfl, 0, .start samples, rfl⟩ ?_
  rintro place before ⟨first, earlier, _⟩
  exact absurd (Nat.lt_of_lt_of_le earlier before) (Nat.not_lt_zero first)

theorem Verdict.step (verdict : Verdict timeout samples last detector)
    (ordered : samples.Ordered (last + 1)) :
    Verdict timeout samples (last + 1)
      (detector.call (.observe (samples.time (last + 1)) (samples.count (last + 1)))) := by
  cases verdict with
  | still place before state tracks stands first =>
      simp only [call, observe, state]
      exact .still place (Nat.le_succ_of_le before) state tracks stands first
  | moving state tracks never =>
      obtain ⟨first, began, change⟩ := tracks.lastChange
      have never_yet (now : ¬ samples.StandsStill timeout (last + 1)) :
          ∀ place ≤ last + 1, ¬ samples.StandsStill timeout place := by
        intro place within
        rcases Nat.le_or_eq_of_le_succ within with within | rfl
        · exact never place within
        · exact now
      simp only [call, observe, idle, state, change, tracks.lastSeen, tracks.timeout]
      -- Either the run of equal counts goes on, or another one begins with this sample.
      by_cases same : samples.count (last + 1) = samples.count last
      · have continued := began.continued same
        have still := continued.standsStill_iff timeout ordered
        rw [if_neg (not_not_intro same)]
        split
        · rename_i long
          exact .still (last + 1) (Nat.le_refl _) rfl
            ⟨rfl, same.symm, rfl, first, continued, rfl⟩
            (still.mpr ⟨Nat.lt_succ_of_le began.before, long⟩)
            fun earlier before => never earlier (Nat.le_of_lt_succ before)
        · rename_i short
          exact .moving rfl ⟨rfl, same.symm, rfl, first, continued, rfl⟩
            (never_yet fun stands => short (still.mp stands).2)
      · have changed := Samples.Began.changed same
        rw [if_pos same]
        exact .moving rfl ⟨rfl, rfl, rfl, _, changed, rfl⟩
          (never_yet fun stands =>
            Nat.lt_irrefl _ ((changed.standsStill_iff timeout ordered).mp stands).1)

theorem verdict_watched (timeout : Span) (ordered : samples.Ordered last) :
    Verdict timeout samples last (watched timeout samples last) := by
  induction last with
  | zero => exact verdict_start timeout samples
  | succ last ih =>
      exact (ih fun place before => ordered place (Nat.lt_succ_of_lt before)).step ordered

/-- A detector has stalled exactly if the count stood still for the timeout at one of the
samples.  Then it shows the first such sample, otherwise the last one taken, with the time
since the run of equal counts up to it began.  Nothing changes a closed detector. -/
theorem stalled_exactly_when_still (timeout : Span) (ordered : samples.Ordered last) :
    ((watched timeout samples last).state = .stalled ↔
      ∃ place ≤ last, samples.StandsStill timeout place) ∧
    ((∀ place ≤ last, ¬ samples.StandsStill timeout place) →
      (watched timeout samples last).state = .watching ∧
      (watched timeout samples last).lastSeen = samples.count last ∧
      ∃ first, samples.Began first last ∧
        (watched timeout samples last).idle =
          (samples.time last).monus (samples.time first)) ∧
    (∀ place ≤ last, samples.StandsStill timeout place →
      (∀ earlier < place, ¬ samples.StandsStill timeout earlier) →
      (watched timeout samples last).lastSeen = samples.count place ∧
      ∃ first, samples.Began first place ∧
        (watched timeout samples last).idle =
          (samples.time place).monus (samples.time first)) ∧
    (watched timeout samples last).close.state = .done ∧
    ∀ calls, (watched timeout samples last).close.replay calls =
      (watched timeout samples last).close := by
  have verdict := verdict_watched timeout ordered
  generalize watched timeout samples last = detector at verdict ⊢
  cases verdict with
  | moving state tracks never =>
      refine ⟨?_, fun _ => ⟨state, tracks.lastSeen, tracks.idle⟩, ?_, rfl, replay_done rfl⟩
      · rw [state]
        exact ⟨fun stalled => by contradiction,
          fun ⟨place, before, stands⟩ => absurd stands (never place before)⟩
      · exact fun place before stands => absurd stands (never place before)
  | still place before state tracks stands first =>
      refine ⟨⟨fun _ => ⟨place, before, stands⟩, fun _ => state⟩, ?_, ?_, rfl, replay_done rfl⟩
      · exact fun never => absurd stands (never place before)
      · intro other _ again earliest
        have same : other = place :=
          Nat.le_antisymm (Nat.le_of_not_lt fun later => earliest place later stands)
            (Nat.le_of_not_lt fun sooner => first other sooner again)
        rw [same]
        exact ⟨tracks.lastSeen, tracks.idle⟩

/-- A count that changes just as the timeout is over, changes back at once, stands still, and
changes once more. -/
def wavering : Samples where
  time place := .ofNanosWord ([0, 500, 1000, 1000, 1999, 2000, 2100].getD place 2100)
  count place := [7, 7, 8, 7, 7, 7, 9].getD place 9

/-- It has stood still since it changed back, and the last change is not seen any more. -/
theorem stalled_after_wavering :
    (watched (.ofNanosWord 1000) wavering 4).state = .watching ∧
    (watched (.ofNanosWord 1000) wavering 6).state = .stalled ∧
    (watched (.ofNanosWord 1000) wavering 6).lastSeen = 7 ∧
    (watched (.ofNanosWord 1000) wavering 6).idle = .ofNanosWord 1000 ∧
    (watched (.ofNanosWord 1000) wavering 6).close.replay [.observe .zero 3, .close] =
      (watched (.ofNanosWord 1000) wavering 6).close := by
  obtain ⟨_, moving, _⟩ :=
    stalled_exactly_when_still (.ofNanosWord 1000) (show wavering.Ordered 4 by decide)
  obtain ⟨state, _, still, _, closed⟩ :=
    stalled_exactly_when_still (.ofNanosWord 1000) (show wavering.Ordered 6 by decide)
  obtain ⟨lastSeen, first, began, idle⟩ := still 5 (by decide) (by decide) (by decide)
  have late : first ≤ 3 :=
    Nat.le_of_not_lt fun later => began.earliest 3 later (by decide)
  have early : 3 ≤ first :=
    Nat.le_of_not_lt fun sooner =>
      absurd (began.flat 2 (by decide) (Nat.le_of_lt_succ sooner)) (by decide)
  obtain rfl := Nat.le_antisymm late early
  exact ⟨(moving (by decide)).1, state.mpr ⟨5, by decide, by decide⟩, lastSeen, idle, closed _⟩

end Detector

end Contention.Stall

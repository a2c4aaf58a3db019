import Contention.Proofs.Stall.Stillness
import Mathlib.Order.Nat

namespace Contention.Stall

/-- A count that depends on the time, as it is found at the times of the samples. -/
def Samples.of (counter : Span → Nat) (time : Nat → Span) : Samples where
  time
  count place := counter (time place)

namespace Samples

variable {samples : Samples} {counter : Span → Nat} {time : Nat → Span} {interval moment : Span}
  {first last place : Nat}

def Paced (samples : Samples) (interval : Span) (last : Nat) : Prop :=
  ∀ place < last, samples.time place < samples.time (place + 1) ∧
    (samples.time (place + 1)).monus (samples.time place) ≤ interval

instance (samples : Samples) (interval : Span) (last : Nat) :
    Decidable (samples.Paced interval last) :=
  inferInstanceAs (Decidable (∀ place < last, _))

theorem Paced.ordered (paced : samples.Paced interval last) : samples.Ordered last :=
  fun place before => Nat.le_of_lt (paced place before).1

theorem Paced.within (paced : samples.Paced interval last) (before : place ≤ last) :
    samples.Paced interval place :=
  fun earlier sooner => paced earlier (Nat.lt_of_lt_of_le sooner before)

/-- The first sample that is not taken before a moment comes less than an interval after it,
unless it is the very first one. -/
theorem Paced.first_since (paced : samples.Paced interval last) {nanos : Nat}
    (reached : nanos ≤ (samples.time last).nanos) :
    ∃ first ≤ last, nanos ≤ (samples.time first).nanos ∧
      (∀ earlier < first, (samples.time earlier).nanos < nanos) ∧
      (first = 0 ∨ (samples.time first).nanos < nanos + interval.nanos) := by
  classical
  have late : ∃ place, nanos ≤ (samples.time place).nanos := ⟨last, reached⟩
  have within : Nat.find late ≤ last := Nat.find_min' late reached
  refine ⟨Nat.find late, within, Nat.find_spec late,
    fun earlier before => Nat.lt_of_not_le (Nat.find_min late before), ?_⟩
  cases found : Nat.find late with
  | zero => exact .inl rfl
  | succ before =>
      have early : (samples.time before).nanos < nanos :=
        Nat.lt_of_not_le (Nat.find_min late (by omega))
      have gap : (samples.time (before + 1)).nanos - (samples.time before).nanos ≤ interval.nanos :=
        (paced before (by omega)).2
      exact .inr (by omega)

theorem flat_of_rests (rests : ∀ later, moment ≤ later → counter later = counter moment)
    (ordered : (of counter time).Ordered last) (since : moment ≤ time first) :
    (of counter time).Flat first last := by
  have settled (place : Nat) (after : first ≤ place) (before : place ≤ last) :
      counter (time place) = counter moment :=
    rests _ (Nat.le_trans since (ordered.le after before))
  intro place before after
  exact (settled place after before).trans
    (settled last (Nat.le_trans after before) (Nat.le_refl last)).symm

end Samples

namespace Detector

variable {samples : Samples} {counter : Span → Nat} {time : Nat → Span}
  {timeout interval moment : Span} {last place : Nat} {detector : Detector}

theorem Verdict.state_of_stands (verdict : Verdict timeout samples last detector)
    (before : place ≤ last) (stands : samples.StandsStill timeout place) :
    detector.state = .stalled := by
  cases verdict with
  | moving state tracks never => exact absurd stands (never place before)
  | still _ _ state => exact state

theorem Verdict.state_of_never (verdict : Verdict timeout samples last detector)
    (never : ∀ place ≤ last, ¬ samples.StandsStill timeout place) :
    detector.state = .watching := by
  cases verdict with
  | moving state => exact state
  | still place before _ _ stands => exact absurd stands (never place before)

/-- A detector whose samples stand still for long enough at one of them fires once and for all,
there or earlier. -/
theorem exists_fired (ordered : samples.Ordered last) (before : place ≤ last)
    (stands : samples.StandsStill timeout place) :
    ∃ fired ≤ place,
      (∀ earlier < fired, (watched timeout samples earlier).state = .watching) ∧
      ∀ later ≤ last, fired ≤ later → (watched timeout samples later).state = .stalled := by
  have still : ∃ place, samples.StandsStill timeout place := ⟨place, stands⟩
  have verdict (other : Nat) (within : other ≤ last) :
      Verdict timeout samples other (watched timeout samples other) :=
    verdict_watched timeout fun place sooner => ordered place (Nat.lt_of_lt_of_le sooner within)
  have first : Nat.find still ≤ place := Nat.find_min' still stands
  refine ⟨Nat.find still, first, fun earlier sooner => ?_, fun later within after => ?_⟩
  · refine (verdict earlier (by omega)).state_of_never fun other earliest => ?_
    exact Nat.find_min still (by omega)
  · exact (verdict later within).state_of_stands after (Nat.find_spec still)

/-- A detector that still watches at a moment after which the count does not change fires at a
sample after that moment.  That sample comes less than the timeout and an interval after the
first one that is not taken before the moment, and so less than the timeout and two intervals
after the moment itself. -/
theorem fires_within_two_intervals (positive : .zero < timeout)
    (paced : (Samples.of counter time).Paced interval last) (begun : time 0 ≤ moment)
    (rests : ∀ later, moment ≤ later → counter later = counter moment)
    (watching : ∀ place ≤ last, time place ≤ moment →
      (watched timeout (.of counter time) place).state = .watching)
    (goesOn : moment.nanos + timeout.nanos + interval.nanos ≤ (time last).nanos) :
    ∃ seen fired, seen ≤ fired ∧ fired ≤ last ∧
      moment ≤ time seen ∧ (∀ place < seen, time place < moment) ∧
      moment < time fired ∧
      (∀ place < fired, (watched timeout (.of counter time) place).state = .watching) ∧
      (∀ place ≤ last, fired ≤ place →
        (watched timeout (.of counter time) place).state = .stalled) ∧
      (time fired).nanos < (time seen).nanos + timeout.nanos + interval.nanos ∧
      (time fired).nanos < moment.nanos + timeout.nanos + 2 * interval.nanos := by
  have ordered := paced.ordered
  have long : 0 < timeout.nanos := positive
  have opening : (time 0).nanos ≤ moment.nanos := begun
  obtain ⟨seen, within, since, before, first⟩ := paced.first_since
    (show moment.nanos ≤ (time last).nanos by omega)
  have prompt : (time seen).nanos ≤ moment.nanos + interval.nanos := by
    rcases first with rfl | soon
    · omega
    · exact Nat.le_of_lt soon
  -- At `due` the timeout is over, measured from the sample that has seen the last change.
  obtain ⟨due, reached, ripe, _, soon⟩ := paced.first_since
    (show (time seen).nanos + timeout.nanos ≤ (time last).nanos by omega)
  have onward : seen < due := by
    refine Nat.lt_of_not_le fun sooner => ?_
    have back : (time due).nanos ≤ (time seen).nanos := ordered.le sooner within
    exact absurd (Nat.le_trans ripe back) (by omega)
  have stands : (Samples.of counter time).StandsStill timeout due :=
    ⟨seen, onward, Samples.flat_of_rests rests (paced.within reached).ordered since,
      Nat.le_sub_of_add_le' ripe⟩
  -- It may have fired before that: the count may have been at rest for longer than since `moment`.
  obtain ⟨fired, sooner, calm, stalled⟩ := exists_fired ordered reached stands
  have inside : fired ≤ last := Nat.le_trans sooner reached
  have after : moment < time fired := by
    refine Nat.lt_of_not_le fun early => ?_
    have still := watching fired inside early
    rw [stalled fired inside (Nat.le_refl fired)] at still
    contradiction
  have later : seen ≤ fired :=
    Nat.le_of_not_lt fun early => Nat.lt_asymm after (before fired early)
  have bound : (time fired).nanos < (time seen).nanos + timeout.nanos + interval.nanos := by
    have early : (time fired).nanos ≤ (time due).nanos := ordered.le sooner reached
    rcases soon with rfl | soon
    · omega
    · exact Nat.lt_of_le_of_lt early soon
  exact ⟨seen, fired, later, inside, since, before, after, calm, stalled, bound, by omega⟩

def changesOnce (now : Span) : Nat := if now < .ofMillisWord 1 then 0 else 1

def everyFifthOfASecond (place : Nat) : Span := .ofMillisWord (UInt64.ofNat (200 * place))

theorem changesOnce_mono {early late : Span} (ordered : early ≤ late) :
    changesOnce early ≤ changesOnce late := by
  unfold changesOnce
  split
  · exact Nat.zero_le _
  · rename_i changed
    have still : ¬ late < .ofMillisWord 1 :=
      fun before => changed (Nat.lt_of_le_of_lt ordered before)
    rw [if_neg still]

theorem changesOnce_rests {later : Span} (since : .ofMillisWord 1 ≤ later) :
    changesOnce later = changesOnce (.ofMillisWord 1) :=
  if_neg (Nat.not_lt_of_le since)

theorem watching_at_first :
    ∀ place ≤ 8, everyFifthOfASecond place ≤ .ofMillisWord 1 →
      (watched (.ofMillisWord 1100) (.of changesOnce everyFifthOfASecond) place).state =
        .watching := by
  decide

theorem not_fired_by_then :
    ∀ place ≤ 8, everyFifthOfASecond place ≤ .ofMillisWord 1301 →
      (watched (.ofMillisWord 1100) (.of changesOnce everyFifthOfASecond) place).state ≠
        .stalled := by
  decide

theorem fires_within_two_intervals_of_a_change :
    ∃ fired ≤ 8,
      (watched (.ofMillisWord 1100) (.of changesOnce everyFifthOfASecond) fired).state = .stalled ∧
      .ofMillisWord 1301 < everyFifthOfASecond fired ∧
      everyFifthOfASecond fired < .ofMillisWord 1501 := by
  have paced : (Samples.of changesOnce everyFifthOfASecond).Paced (.ofMillisWord 200) 8 := by
    decide
  obtain ⟨_, fired, _, within, _, _, _, _, stalled, _, bound⟩ :=
    fires_within_two_intervals (by decide) paced (by decide) (fun _ => changesOnce_rests)
      watching_at_first (by decide)
  have state := stalled fired within (Nat.le_refl fired)
  exact ⟨fired, within, state,
    Nat.lt_of_not_le fun early => not_fired_by_then fired within early state, bound⟩

/-- One interval is not always enough: the change may be seen late, and the timeout be tested
late again. -/
theorem not_always_within_one_interval :
    ¬ ∀ (counter : Span → Nat) (time : Nat → Span) (timeout interval moment : Span) (last : Nat),
      (∀ early late, early ≤ late → counter early ≤ counter late) → .zero < timeout →
      (Samples.of counter time).Paced interval last → time 0 ≤ moment →
      (∀ later, moment ≤ later → counter later = counter moment) →
      (∀ place ≤ last, time place ≤ moment →
        (watched timeout (.of counter time) place).state = .watching) →
      moment.nanos + timeout.nanos + interval.nanos < (time last).nanos →
      ∃ place ≤ last, (watched timeout (.of counter time) place).state = .stalled ∧
        (time place).nanos ≤ moment.nanos + timeout.nanos + interval.nanos := by
  intro always
  obtain ⟨place, within, stalled, early⟩ :=
    always changesOnce everyFifthOfASecond (.ofMillisWord 1100) (.ofMillisWord 200)
      (.ofMillisWord 1) 8 (fun _ _ => changesOnce_mono) (by decide) (by decide) (by decide)
      (fun _ => changesOnce_rests) watching_at_first (by decide)
  exact not_fired_by_then place within early stalled

end Detector

end Contention.Stall

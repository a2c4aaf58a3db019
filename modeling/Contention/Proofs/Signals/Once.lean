import Contention.Proofs.Signals.Decision
import Contention.Proofs.Signals.Returning

namespace Contention.Signals.Traffic

variable {traffic later : Traffic} {number winner : Nat} {reason : EndReason}

def Returned (traffic : Traffic) (number : Nat) (ask : Ask) (answer : Answer) : Prop :=
  (traffic.calls[number]?).map (fun call => (call.ask, call.stage)) = some (ask, .returned answer)

instance (traffic : Traffic) (number : Nat) (ask : Ask) (answer : Answer) :
    Decidable (traffic.Returned number ask answer) :=
  inferInstanceAs (Decidable (_ = _))

theorem Returned.found {ask : Ask} {answer : Answer}
    (returned : traffic.Returned number ask answer) :
    ∃ call, traffic.calls[number]? = some call ∧ call.ask = ask ∧
      call.stage.answer? = some answer := by
  obtain ⟨call, found, same⟩ := Option.map_eq_some_iff.mp returned
  obtain ⟨asked, stage⟩ := Prod.mk.inj same
  exact ⟨call, found, asked, by rw [stage]; rfl⟩

structure Won (traffic : Traffic) (winner : Nat) (reason : EndReason) : Prop where
  asked : (traffic.calls[winner]?).map (·.ask) = some (.stop reason)
  lasting : ∀ later, Attains Traffic.after traffic later →
    later.signals.stopped = true ∧ later.signals.reason = some reason
  alone : ∀ later number other answer, Attains Traffic.after traffic later →
    later.Returned number (.stop other) answer → answer = .truth (decide (number = winner))
  returns : ∀ later, Attains Traffic.after traffic later →
    (∀ number, later.step number = none) → later.Returned winner (.stop reason) (.truth true)
  seen : ∀ later number answer, Attains Traffic.after traffic later →
    traffic.calls.length ≤ number → later.Returned number .isStopped answer →
      answer = .truth true
  told : ∀ later number answer, Attains Traffic.after traffic later →
    traffic.calls.length ≤ number → later.Returned number .why answer →
      answer = .reason (some reason)

theorem Decided.attained (decided : traffic.Decided winner reason)
    (attains : Attains Traffic.after traffic later) : later.Decided winner reason :=
  attains.invariant (fun traffic => traffic.Decided winner reason)
    (fun _ _ _ holds moved => Decided.after holds moved) decided

theorem Decided.newcomers (decided : traffic.Decided winner reason)
    (attains : Attains Traffic.after traffic later) :
    later.Follows reason fun number _ => traffic.calls.length ≤ number := by
  refine attains.invariant
    (fun later => later.Follows reason fun number _ => traffic.calls.length ≤ number)
    (fun _ _ _ holds moved => Follows.after holds moved)
    ⟨decided.follows.sound, decided.follows.stopped, decided.follows.recorded, ?_⟩
  -- No call has such a number yet.
  intro number call answer expected found late
  have inside := (List.getElem?_eq_some_iff.mp found).1
  omega

theorem Decided.won_for_good (decided : traffic.Decided winner reason) :
    traffic.Won winner reason := by
  refine ⟨?_, fun later attains => ?_, ?_, ?_, ?_, ?_⟩
  · obtain ⟨call, found, asked, _⟩ := decided.won
    rw [found, Option.map_some, asked]
  · have follows := (decided.attained attains).follows
    exact ⟨follows.stopped, follows.recorded⟩
  · intro later number other answer attains returned
    obtain ⟨call, found, asked, answered⟩ := returned.found
    obtain ⟨follows, own, known, _, won⟩ := decided.attained attains
    by_cases same : number = winner
    · cases same
      cases found.symm.trans known
      rw [decide_eq_true rfl]
      exact Option.some.inj (answered.symm.trans won)
    · rw [decide_eq_false same]
      exact follows.told number call answer _ found ⟨same, other, asked⟩ answered
        (by rw [asked]; rfl)
  · intro later attains stuck
    obtain ⟨follows, own, known, asked, won⟩ := decided.attained attains
    have returned := follows.sound.returned stuck known
    rw [Returned, known, Option.map_some, asked]
    cases stage : own.stage with
    | returned answer =>
        rw [stage] at won
        cases won
        rfl
    | _ =>
        rw [stage] at returned
        contradiction
  · intro later number answer attains late returned
    obtain ⟨call, found, asked, answered⟩ := returned.found
    exact (decided.newcomers attains).told number call answer _ found late answered
      (by rw [asked]; rfl)
  · intro later number answer attains late returned
    obtain ⟨call, found, asked, answered⟩ := returned.found
    exact (decided.newcomers attains).told number call answer _ found late answered
      (by rw [asked]; rfl)

/-- Once a request has returned, or somebody was told of a stop, one request has won.  The
operations are counted one by one meanwhile, and all calls return. -/
theorem stops_once_and_counts_all {moves : List Move}
    (ran : Traffic.run {} moves = some traffic) :
    (∀ number ask answer, traffic.Returned number ask answer →
      (∃ reason, ask = .stop reason) ∨ ask = .isStopped ∧ answer = .truth true →
      ∃ winner reason, traffic.Won winner reason) ∧
      (traffic.results .record).Subperm (tally traffic.signals.total) ∧
      ((∀ call ∈ traffic.calls, call.ask = .record → call.stage.hasReturned = true) →
        (traffic.results .record).Perm (tally (traffic.calls.countP (·.ask = .record))) ∧
          traffic.signals.total = traffic.calls.countP (·.ask = .record)) ∧
      ∀ (numbers : List Nat) (later : Traffic), numbers.foldlM Traffic.step traffic = some later →
        numbers.length ≤ 7 * traffic.calls.length ∧
          ((∀ number, later.step number = none) →
            ∀ call ∈ later.calls, call.stage.hasReturned = true) := by
  have counted : traffic.Counted :=
    foldlM_invariant Counted (fun _ _ _ counted moved => counted.after moved) ran counted_fresh
  refine ⟨fun number ask answer returned told => ?_, counted.results_subperm,
    counted.results_perm, fun numbers later onward => ⟨?_, fun stuck call member => ?_⟩⟩
  · rcases undecided_or_decided ran with undecided | ⟨winner, reason, decided⟩
    · obtain ⟨call, found, asked, answered⟩ := returned.found
      have early := undecided.early number call answer found answered
      rw [asked] at early
      rcases told with ⟨reason, rfl⟩ | ⟨rfl, rfl⟩
      · exact early.elim
      · have told : Answer.truth true = .truth false := early
        contradiction
    · exact ⟨winner, reason, decided.won_for_good⟩
  · have bound := steps_le onward
    have all := traffic.remaining_le
    omega
  · have sound : later.Sound :=
      foldlM_invariant Sound (fun _ _ _ sound stepped => sound.step stepped) onward counted.sound
    obtain ⟨number, inside, same⟩ := List.getElem_of_mem member
    exact sound.returned stuck (same ▸ List.getElem?_eq_getElem inside)

/-- One request gets the lock before another, and a look at the flag comes between its two
writes. -/
def racing : List Move :=
  [.call 0 (.stop .deadline), .call 1 (.stop .operator), .call 2 .record, .call 3 .isStopped,
    .step 0, .step 0, .step 0, .step 3, .step 2, .step 0, .step 0, .step 0,
    .step 1, .step 1, .step 1, .step 1, .step 3, .step 2]

/-- The loser has returned, and the winner has not. -/
theorem stops_once_and_counts_all_while_racing :
    ∃ traffic, Traffic.run {} racing = some traffic ∧
      traffic.stage? 0 = some (.leave (.truth true)) ∧
      traffic.Returned 1 (.stop .operator) (.truth false) ∧
      traffic.Returned 3 .isStopped (.truth false) ∧
      traffic.Won 0 .deadline ∧
      (traffic.results .record).Perm [.count 1] ∧ traffic.signals.total = 1 := by
  refine ⟨_, rfl, rfl, rfl, rfl, ?_⟩
  obtain ⟨decided, _, counts, _⟩ :=
    stops_once_and_counts_all (show Traffic.run {} racing = some _ from rfl)
  obtain ⟨winner, reason, won⟩ := decided 1 _ _ rfl (.inl ⟨_, rfl⟩)
  refine ⟨?_, counts (by decide)⟩
  obtain ⟨_, recorded⟩ := won.lasting _ (.refl ..)
  cases recorded
  have asked := won.asked
  rcases winner with _ | _ | _ | _ | _
  · exact won
  all_goals contradiction

end Contention.Signals.Traffic

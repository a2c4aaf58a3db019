import Contention.Proofs.Signals.Atomicity

namespace Contention.Signals

/-- What a call answers that takes effect after a stop, if that depends on the stop. -/
def Ask.lateAnswer? (reason : EndReason) : Ask → Option Answer
  | .record => none
  | .stop _ => some (.truth false)
  | .isStopped => some (.truth true)
  | .why => some (.reason (some reason))

def Ask.IsEarly (answer : Answer) : Ask → Prop
  | .record => True
  | .stop _ => False
  | .isStopped => answer = .truth false
  | .why => answer = .reason none

theorem Ask.effect_early {signals : Signals} (unset : signals.stopped = false)
    (unwritten : signals.reason = none) (ask : Ask) :
    (∃ reason, ask = .stop reason ∧
      ask.effect signals = ({ signals with reason := some reason, stopped := true }, .truth true)) ∨
      (ask.effect signals).1.stopped = false ∧ ask.IsEarly (ask.effect signals).2 := by
  cases ask with
  | record => exact .inr ⟨unset, trivial⟩
  | stop reason =>
      refine .inl ⟨reason, rfl, ?_⟩
      rw [effect, halt, unwritten]
  | isStopped => exact .inr ⟨unset, congrArg Answer.truth unset⟩
  | why => exact .inr ⟨unset, congrArg Answer.reason unwritten⟩

theorem Ask.effect_late {signals : Signals} {reason : EndReason}
    (stopped : signals.stopped = true) (recorded : signals.reason = some reason) (ask : Ask) :
    (ask.effect signals).1.stopped = true ∧ (ask.effect signals).1.reason = some reason ∧
      ∀ expected, ask.lateAnswer? reason = some expected →
        (ask.effect signals).2 = expected := by
  cases ask with
  | record => exact ⟨stopped, recorded, nofun⟩
  | stop other =>
      rw [effect, halt, recorded]
      exact ⟨stopped, recorded, fun _ => Option.some.inj⟩
  | isStopped =>
      refine ⟨stopped, recorded, ?_⟩
      rw [effect, stopped]
      exact fun _ => Option.some.inj
  | why =>
      refine ⟨stopped, recorded, ?_⟩
      rw [effect, recorded]
      exact fun _ => Option.some.inj

namespace Traffic

variable {traffic next later : Traffic} {number other winner first : Nat} {ask : Ask}
  {call : Call} {answer : Answer} {reason : EndReason} {move : Move} {Late : Nat → Ask → Prop}

theorem Sound.keeps (sound : traffic.Sound) (moved : traffic.after move = some next)
    (found : traffic.calls[number]? = some call) (answered : call.stage.answer? = some answer) :
    ∃ kept, next.calls[number]? = some kept ∧ kept.ask = call.ask ∧
      kept.stage.answer? = some answer := by
  cases move with
  | call thread ask =>
      cases call_eq_some moved
      have inside := (List.getElem?_eq_some_iff.mp found).1
      exact ⟨call, (List.getElem?_append_left inside).trans found, rfl, answered⟩
  | step mover =>
      obtain ⟨acting, stage, known, calls, effect⟩ := sound.effect moved
      rw [calls, calls_goTo known]
      by_cases same : number = mover
      · cases same
        cases found.symm.trans known
        rcases effect with ⟨quiet, _⟩ | ⟨pending, _⟩
        · exact ⟨_, if_pos rfl, rfl, quiet.trans answered⟩
        · rw [pending] at answered
          contradiction
      · exact ⟨call, (if_neg same).trans found, rfl, answered⟩

structure Follows (traffic : Traffic) (reason : EndReason) (Late : Nat → Ask → Prop) : Prop where
  sound : traffic.Sound
  stopped : traffic.signals.stopped = true
  recorded : traffic.signals.reason = some reason
  told : ∀ number call answer expected, traffic.calls[number]? = some call →
    Late number call.ask → call.stage.answer? = some answer →
    call.ask.lateAnswer? reason = some expected → answer = expected

theorem Follows.after (follows : traffic.Follows reason Late)
    (moved : traffic.after move = some next) : next.Follows reason Late := by
  have sound := follows.sound.after moved
  cases move with
  | call thread ask =>
      cases call_eq_some moved
      refine ⟨sound, follows.stopped, follows.recorded, ?_⟩
      intro number call answer expected found late answered
      rcases mem_of_made found with old | ⟨_, rfl⟩
      · exact follows.told number call answer expected old late answered
      · rw [Ask.answer?_entry] at answered
        contradiction
  | step mover =>
      obtain ⟨acting, stage, known, calls, effect⟩ := follows.sound.effect moved
      rw [settled_of_stopped follows.stopped] at effect
      obtain ⟨stopped, recorded, answers⟩ :=
        Ask.effect_late follows.stopped follows.recorded acting.ask
      have after : next.signals.stopped = true ∧ next.signals.reason = some reason := by
        rcases effect with ⟨_, settled⟩ | ⟨_, _, settled⟩
        · rw [eq_of_settled settled follows.stopped]
          exact ⟨follows.stopped, follows.recorded⟩
        · rw [eq_of_settled settled stopped]
          exact ⟨stopped, recorded⟩
      refine ⟨sound, after.1, after.2, ?_⟩
      intro number call answer expected found late given meant
      rw [calls, calls_goTo known] at found
      split at found
      · rename_i same
        cases found
        rcases effect with ⟨kept, _⟩ | ⟨_, answered, _⟩
        · exact follows.told number acting answer expected (same ▸ known) late (kept ▸ given) meant
        · exact Option.some.inj (given.symm.trans answered) ▸ answers expected meant
      · exact follows.told number call answer expected found late given meant

structure Decided (traffic : Traffic) (winner : Nat) (reason : EndReason) : Prop where
  follows : traffic.Follows reason fun number ask => number ≠ winner ∧ ∃ other, ask = .stop other
  won : ∃ call, traffic.calls[winner]? = some call ∧ call.ask = .stop reason ∧
    call.stage.answer? = some (.truth true)

theorem Decided.after (decided : traffic.Decided winner reason)
    (moved : traffic.after move = some next) : next.Decided winner reason := by
  obtain ⟨call, found, asked, answered⟩ := decided.won
  obtain ⟨kept, known, same, still⟩ := decided.follows.sound.keeps moved found answered
  exact ⟨decided.follows.after moved, kept, known, same.trans asked, still⟩

structure Undecided (traffic : Traffic) : Prop where
  sound : traffic.Sound
  unset : traffic.signals.stopped = false
  early : ∀ (number : Nat) (call : Call) answer, traffic.calls[number]? = some call →
    call.stage.answer? = some answer → call.ask.IsEarly answer

theorem undecided_fresh : ({} : Traffic).Undecided where
  sound := sound_fresh
  unset := rfl
  early _ _ _ found := by contradiction

theorem Undecided.after (undecided : traffic.Undecided)
    (moved : traffic.after move = some next) :
    next.Undecided ∨ ∃ winner reason, next.Decided winner reason := by
  have sound := undecided.sound.after moved
  cases move with
  | call thread ask =>
      cases call_eq_some moved
      refine .inl ⟨sound, undecided.unset, fun number call answer found answered => ?_⟩
      rcases mem_of_made found with old | ⟨_, rfl⟩
      · exact undecided.early number call answer old answered
      · rw [Ask.answer?_entry] at answered
        contradiction
  | step mover =>
      obtain ⟨acting, stage, known, calls, effect⟩ := undecided.sound.effect moved
      rw [settled_of_unset undecided.unset] at effect
      have stays (unset : next.signals.settled.stopped = false)
          (early : ∀ answer, stage.answer? = some answer → acting.ask.IsEarly answer) :
          next.Undecided := by
        refine ⟨sound, by rwa [stopped_settled] at unset, ?_⟩
        intro number call answer found answered
        rw [calls, calls_goTo known] at found
        split at found
        · cases found
          exact early answer answered
        · exact undecided.early number call answer found answered
      rcases effect with ⟨kept, settled⟩ | ⟨_, answered, settled⟩
      · refine .inl (stays (by rw [settled]; exact undecided.unset) fun answer given => ?_)
        exact undecided.early mover acting answer known (kept ▸ given)
      · have blank : (traffic.signals.withoutReason).stopped = false := undecided.unset
        rcases Ask.effect_early blank rfl acting.ask with ⟨reason, asked, whole⟩ | ⟨unset, early⟩
        · rw [whole] at settled answered
          have stopped : next.signals.stopped = true := by rw [← stopped_settled, settled]
          rw [settled_of_stopped stopped] at settled
          refine .inr ⟨mover, reason, ⟨sound, stopped, by rw [settled], ?_⟩,
            { acting with stage }, ?_, asked, answered⟩
          · intro number call answer expected found late given
            obtain ⟨apart, other, theirs⟩ := late
            rw [calls, calls_goTo known, if_neg apart] at found
            have impossible := undecided.early number call answer found given
            rw [theirs] at impossible
            exact impossible.elim
          · rw [calls, calls_goTo known, if_pos rfl]
        · refine .inl (stays (by rwa [settled]) fun answer given => ?_)
          cases answered.symm.trans given
          exact early

theorem undecided_or_decided {moves : List Move}
    (ran : Traffic.run {} moves = some traffic) :
    traffic.Undecided ∨ ∃ winner reason, traffic.Decided winner reason := by
  refine foldlM_invariant
    (fun traffic => traffic.Undecided ∨ ∃ winner reason, traffic.Decided winner reason)
    (fun state move next holds moved => ?_) ran (.inl undecided_fresh)
  rcases holds with undecided | ⟨winner, reason, decided⟩
  · exact undecided.after moved
  · exact .inr ⟨winner, reason, decided.after moved⟩

end Traffic

end Contention.Signals

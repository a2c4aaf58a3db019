import Contention.Proofs.Phase.Clock
import Contention.Proofs.Phase.Teardown
import Contention.Proofs.WaitGraph.Search
import Contention.Proofs.Worker.Steady

namespace Contention

namespace System

variable {σ : Type} {regime : Regime σ} {resources workers : Nat} {system next : System σ}
  {worker mover : Worker} {thread : Thread} {row : List Worker}

theorem Steady.idle_of_ended (steady : system.Steady regime resources workers)
    (found : system.thread? worker = some thread) (ended : thread.hasEnded = true) :
    system.shop.activity worker = .idle := by
  rcases steady.stands worker (steady.member_of_thread found) with ⟨same, pair, placed⟩ | fallen
  · cases found.symm.trans placed.found
    have calm := placed.calm
    unfold Thread.hasEnded at ended
    split at ended
    · exact (placed.exited ‹_›).1
    · rename_i failed
      rw [failed] at calm
      contradiction
    · contradiction
  · exact fallen.deserted.idle

theorem Steady.step_of_ended (steady : system.Steady regime resources workers)
    (ended : system.hasEnded worker = true) : system.step regime worker = none := by
  unfold hasEnded at ended
  unfold System.step
  cases found : system.thread? worker with
  | none => rfl
  | some thread =>
      simp only [found] at ended ⊢
      rw [if_pos (Workshop.isIdle_iff.mpr (steady.idle_of_ended found ended))]
      cases regime.pairing.pairFor worker system.resources with
      | error fault => exact if_pos ended
      | ok chosen =>
          unfold Thread.hasEnded at ended
          simp only [loopStep]
          split at ended
          · rename_i stage
            rw [stage]
          · rename_i stage
            rw [stage]
          · contradiction

theorem Steady.hasEnded_after (steady : system.Steady regime resources workers)
    (stepped : system.after regime (.step mover) = some next)
    (ended : system.hasEnded worker = true) : next.hasEnded worker = true := by
  by_cases own : worker = mover
  · cases own
    rw [System.after, steady.step_of_ended ended] at stepped
    contradiction
  · rwa [hasEnded, (steady.passes stepped).threads worker own]

theorem Steady.unended_of_knot (steady : system.Steady regime resources workers)
    (knot : system.shop.Knot row) (member : worker ∈ row) : system.hasEnded worker = false := by
  obtain ⟨place, locking, _⟩ := knot worker member
  have onBoard := Workshop.onBoard_of_activity locking (by simp)
  obtain ⟨thread, found⟩ : ∃ thread, system.thread? worker = some thread := by
    rw [Workshop.OnBoard, steady.slots, ← steady.threads] at onBoard
    exact ⟨_, List.getElem?_eq_getElem onBoard⟩
  rw [hasEnded, found]
  refine Bool.eq_false_iff.mpr fun ended => ?_
  rw [steady.idle_of_ended found ended] at locking
  contradiction

/-- No worker on a circular wait takes a step. -/
theorem Steady.outside_knot (steady : system.Steady regime resources workers)
    (knot : system.shop.Knot row) (stepped : system.after regime (.step mover) = some next) :
    mover ∉ row := by
  intro member
  obtain ⟨place, locking, _⟩ := knot mover member
  have blocked := Workshop.advance_of_held locking (knot.held steady.orderly.guarded member locking)
  obtain ⟨step, taken, _⟩ := Option.map_eq_some_iff.mp stepped
  obtain ⟨thread, _, taken⟩ := stepped_of_step taken
  cases taken with
  | slot advance busy advanced =>
      rw [blocked] at advanced
      contradiction
  | astray fault idle | loop chosen next idle =>
      rw [Workshop.isIdle_iff.mp idle] at locking
      contradiction

end System

theorem Straggler.ofSnapshot_snapshot (record : Record) (worker : Worker) (now : Instant) :
    Straggler.ofSnapshot (record.snapshot worker now) =
      { worker, held := record.held, awaiting := record.awaiting } := rfl

namespace Phase

variable {σ : Type} {phase next opening : Phase σ} {move : Move} {taken : List Poll}
  {row : List Worker} {worker : Worker}

/-- The look that the host takes at the workers in a move, if it takes one. -/
def looks (phase : Phase σ) : Move → List Poll
  | .act .host =>
      match phase.host with
      | .polling _ _ _ _ =>
          [{ hasEnded := phase.system.hasEnded, now := phase.system.clock }]
      | _ => []
  | _ => []

theorem Hosted.system (hosted : Hosted phase next) :
    next.system.shop = phase.system.shop ∧ next.system.threads = phase.system.threads := by
  cases hosted <;> exact ⟨rfl, rfl⟩

theorem system_after (moved : phase.after move = some next) :
    next.regime = phase.regime ∧ next.config = phase.config ∧
      phase.system.clock ≤ next.system.clock ∧
      (next.system.shop = phase.system.shop ∧ next.system.threads = phase.system.threads ∨
        ∃ mover, phase.system.after phase.regime (.step mover) = some next.system) := by
  cases move with
  | act actor =>
      obtain ⟨step, stepped, rfl⟩ := Option.map_eq_some_iff.mp moved
      cases actor with
      | host =>
          have hosted := hosted_of_step stepped
          obtain ⟨_, config, clock⟩ := hosted.frame
          exact ⟨hosted.others.2, config, Nat.le_of_eq (congrArg Instant.nanos clock.symm),
            .inl hosted.system⟩
      | monitor =>
          obtain ⟨turn, _, rfl⟩ := Option.map_eq_some_iff.mp stepped
          exact ⟨rfl, rfl, Nat.le_refl _, .inl ⟨rfl, rfl⟩⟩
      | worker mover =>
          obtain ⟨turn, turned, rfl⟩ := Option.map_eq_some_iff.mp stepped
          refine ⟨rfl, rfl, Nat.le_of_eq ?_, .inr ⟨mover, ?_⟩⟩
          · exact congrArg Instant.nanos (System.step_clock turned).symm
          · rw [System.after, turned]
            rfl
  | stop =>
      cases moved
      exact ⟨rfl, rfl, Nat.le_refl _, .inl ⟨rfl, rfl⟩⟩
  | wait nanos =>
      cases moved
      exact ⟨rfl, rfl, Nat.le_add_right _ _, .inl ⟨rfl, rfl⟩⟩

def Steady (phase : Phase σ) : Prop :=
  phase.system.Steady phase.regime phase.config.resources phase.config.workers

theorem Steady.after (steady : phase.Steady) (moved : phase.after move = some next) :
    next.Steady := by
  obtain ⟨regime, config, _, ⟨shop, threads⟩ | ⟨mover, stepped⟩⟩ := system_after moved
  · rw [Steady, regime, config]
    exact System.Steady.of_same steady shop threads
  · rw [Steady, regime, config]
    exact System.Steady.step steady stepped

theorem Steady.hasEnded_after (steady : phase.Steady) (moved : phase.after move = some next)
    (ended : phase.system.hasEnded worker = true) : next.system.hasEnded worker = true := by
  obtain ⟨_, _, _, ⟨_, threads⟩ | ⟨mover, stepped⟩⟩ := system_after moved
  · rwa [System.hasEnded, System.thread?, threads]
  · exact System.Steady.hasEnded_after steady stepped ended

theorem Steady.knot_after (steady : phase.Steady) (moved : phase.after move = some next)
    (knot : phase.system.shop.Knot row) :
    next.system.shop.Knot row ∧ ∀ worker ∈ row,
      next.system.shop.board.record? worker = phase.system.shop.board.record? worker := by
  obtain ⟨_, _, _, ⟨shop, _⟩ | ⟨mover, stepped⟩⟩ := system_after moved
  · rw [shop]
    exact ⟨knot, fun _ _ => rfl⟩
  · have outside := System.Steady.outside_knot steady knot stepped
    have frame := (System.Steady.passes steady stepped).frame
    exact ⟨knot.framed frame outside,
      fun worker member => frame.record? worker fun same => outside (same ▸ member)⟩

/-- What a run from `opening`, in which these looks were taken, has left as it was. -/
structure Observed (opening phase : Phase σ) (taken : List Poll) : Prop where
  steady : phase.Steady
  config : phase.config = opening.config
  passed : opening.system.clock ≤ phase.system.clock
  lasting : Teardown.Lasting taken
  ended : ∀ poll ∈ taken, ∀ worker, poll.hasEnded worker = true →
    phase.system.hasEnded worker = true
  knots : ∀ row, opening.system.shop.Knot row → phase.system.shop.Knot row ∧ ∀ worker ∈ row,
    phase.system.shop.board.record? worker = opening.system.shop.board.record? worker

theorem hasEnded_of_looks {poll : Poll} (member : poll ∈ phase.looks move) :
    poll.hasEnded = phase.system.hasEnded := by
  unfold looks at member
  split at member
  · split at member
    · rw [List.mem_singleton.mp member]
    · contradiction
  · contradiction

theorem Observed.after (observed : opening.Observed phase taken)
    (moved : phase.after move = some next) :
    opening.Observed next (taken ++ phase.looks move) := by
  obtain ⟨_, config, passed, _⟩ := system_after moved
  have steady := observed.steady
  refine ⟨steady.after moved, config.trans observed.config,
    Nat.le_trans observed.passed passed, ?_, ?_, fun row knot => ?_⟩
  · refine List.pairwise_append.mpr ⟨observed.lasting, ?_, fun early before late now worker => ?_⟩
    · unfold looks
      split
      · split
        · exact List.pairwise_singleton _ _
        · exact .nil
      · exact .nil
    · rw [hasEnded_of_looks now]
      exact observed.ended early before worker
  · intro poll member worker ended
    refine steady.hasEnded_after moved ?_
    rcases List.mem_append.mp member with before | now
    · exact observed.ended poll before worker ended
    · rwa [← hasEnded_of_looks now]
  · obtain ⟨still, kept⟩ := observed.knots row knot
    obtain ⟨onward, same⟩ := steady.knot_after moved still
    exact ⟨onward, fun worker member => (same worker member).trans (kept worker member)⟩

def teardown (phase : Phase σ) (deadline : Instant) : Teardown :=
  { deadline, pending := phase.workers }

/-- The join grace has been added to the clock at some moment between `opening` and `now`. -/
def AddsGrace (opening : Phase σ) (now : Instant) (sum : Except Fault Instant) : Prop :=
  ∃ began, opening.system.clock ≤ began ∧ began ≤ now ∧
    began.after opening.config.joinGrace = sum

/-- What comes of a teardown that ends with these looks: whoever is left is abandoned, and so is
everybody on a circular wait that the board shows at `opening`, with what its record shows there. -/
def Abandons (opening : Phase σ) (taken : List Poll) (abandoned : List Straggler) : Prop :=
  ∃ deadline final, (∀ poll ∈ taken, opening.AddsGrace poll.now (.ok deadline)) ∧
    (opening.teardown deadline).watch taken = some final ∧
    abandoned.map (·.worker) = final.pending ∧
    ∀ now, ∀ row ∈ (opening.system.shop.graph now).cycles, ∀ worker ∈ row, ∃ snapshot,
      opening.system.shop.board.snapshot? worker now = some snapshot ∧
      .ofSnapshot snapshot ∈ abandoned

/-- How far the host has come with a teardown that was about to begin at `opening`. -/
def TearsDown (opening : Phase σ) (taken : List Poll) (now : Instant) : HostStage → Prop
  | .joiningWorkers _ _ _ => taken = []
  | .failed fault => taken = [] ∧ fault = .clockOverflow ∧ opening.AddsGrace now (.error fault)
  | .polling _ _ _ teardown =>
      opening.AddsGrace now (.ok teardown.deadline) ∧
        (∀ poll ∈ taken, opening.AddsGrace poll.now (.ok teardown.deadline)) ∧
        (opening.teardown teardown.deadline).watch taken = none ∧
        (opening.teardown teardown.deadline).seen taken = teardown
  | .summarising _ _ _ abandoned => opening.Abandons taken abandoned
  | .finished summary => opening.Abandons taken summary.abandoned
  | .waiting | .expired | .stopping | .joiningMonitor _ _ => False

theorem AddsGrace.later {now later : Instant} {sum : Except Fault Instant}
    (grace : opening.AddsGrace now sum) (passed : now ≤ later) : opening.AddsGrace later sum := by
  obtain ⟨began, since, upTo, same⟩ := grace
  exact ⟨began, since, Nat.le_trans upTo passed, same⟩

theorem TearsDown.later {now later : Instant} {host : HostStage}
    (torn : opening.TearsDown taken now host) (passed : now ≤ later) :
    opening.TearsDown taken later host := by
  cases host with
  | failed fault =>
      obtain ⟨unseen, overflow, grace⟩ := torn
      exact ⟨unseen, overflow, grace.later passed⟩
  | polling elapsed reason stall teardown =>
      obtain ⟨grace, rest⟩ := torn
      exact ⟨grace.later passed, rest⟩
  | _ => exact torn

theorem Observed.workers (observed : opening.Observed phase taken) :
    phase.workers = opening.workers := by
  rw [Phase.workers, observed.config, Phase.workers]

theorem Observed.recorded (observed : opening.Observed phase taken)
    (member : worker ∈ opening.workers) :
    ∃ record, phase.system.shop.board.record? worker = some record := by
  have steady := observed.steady
  have onBoard : worker.index < phase.system.shop.board.size := by
    rw [steady.orderly.slots, steady.slots, observed.config]
    exact mem_team.mp member
  exact ⟨_, List.getElem?_eq_getElem onBoard⟩

theorem Observed.captive_left {deadline : Instant} {final : Teardown} {poll : Poll}
    (observed : opening.Observed phase taken) (same : poll.hasEnded = phase.system.hasEnded)
    (lasting : Teardown.Lasting (taken ++ [poll]))
    (watched : (opening.teardown deadline).watch (taken ++ [poll]) = some final)
    (knot : opening.system.shop.Knot row) (member : worker ∈ row)
    (among : worker ∈ opening.workers) : worker ∈ final.pending := by
  obtain ⟨before, last, rest, parts, _, _, left, _⟩ := Teardown.watched lasting watched
  have unended := System.Steady.unended_of_knot observed.steady (observed.knots row knot).1 member
  rw [left]
  refine List.mem_filter.mpr ⟨among, ?_⟩
  have found : last ∈ taken ++ [poll] := by
    rw [parts]
    exact List.mem_append_right _ List.mem_cons_self
  cases ended : last.hasEnded worker with
  | false => rfl
  | true =>
      -- who was found to have ended still has, but nobody on a circular wait does
      rcases List.mem_append.mp found with early | now
      · rw [observed.ended last early worker ended] at unended
        contradiction
      · rw [List.mem_singleton.mp now, same, unended] at ended
        contradiction

theorem Observed.abandons {deadline : Instant} {final : Teardown} {poll : Poll}
    (observed : opening.Observed phase taken) (opened : opening.Steady)
    (grace : ∀ look ∈ taken ++ [poll], opening.AddsGrace look.now (.ok deadline))
    (same : poll.hasEnded = phase.system.hasEnded)
    (lasting : Teardown.Lasting (taken ++ [poll]))
    (watched : (opening.teardown deadline).watch (taken ++ [poll]) = some final) :
    opening.Abandons (taken ++ [poll]) (final.pending.filterMap fun worker =>
      (phase.system.shop.board.snapshot? worker phase.system.clock).map Straggler.ofSnapshot) := by
  refine ⟨deadline, final, grace, watched, ?_, fun now row listed worker member => ?_⟩
  · obtain ⟨_, _, _, _, _, _, left, _⟩ := Teardown.watched lasting watched
    rw [List.map_filterMap]
    refine (List.filterMap_congr fun worker member => ?_).trans List.filterMap_some
    rw [left] at member
    obtain ⟨record, found⟩ := observed.recorded (List.mem_of_mem_filter member)
    rw [Board.snapshot?, found]
    rfl
  · have knot := (System.Steady.reliable opened).knot (WaitGraph.mem_cycles_iff.mp listed).toIsLoop
    obtain ⟨place, locking, _⟩ := knot worker member
    have among : worker ∈ opening.workers := by
      have staffed := System.Steady.toStaffed opened
      exact mem_team.mpr (staffed.onBoard_iff.mp (Workshop.onBoard_of_activity locking (by simp)))
    obtain ⟨record, found⟩ := observed.recorded among
    have before := (observed.knots row knot).2 worker member
    refine ⟨record.snapshot worker now, ?_, List.mem_filterMap.mpr ⟨worker,
      observed.captive_left same lasting watched knot member among, ?_⟩⟩
    · rw [Board.snapshot?, ← before, found]
      rfl
    · rw [Board.snapshot?, found, Option.map_some, Option.map_some, Straggler.ofSnapshot_snapshot,
        Straggler.ofSnapshot_snapshot]

theorem looks_polling {elapsed : Span} {reason : EndReason} {stall : Option Stall.Report}
    {teardown : Teardown} (host : phase.host = .polling elapsed reason stall teardown) :
    phase.looks (.act .host) =
      [{ hasEnded := phase.system.hasEnded, now := phase.system.clock }] := by
  simp only [looks, host]

theorem TearsDown.hosted (torn : opening.TearsDown taken phase.system.clock phase.host)
    (observed : opening.Observed phase taken) (opened : opening.Steady)
    (moved : phase.after (.act .host) = some next) (hosted : Hosted phase next) :
    opening.TearsDown (taken ++ phase.looks (.act .host)) next.system.clock next.host := by
  have lasting := (observed.after moved).lasting
  cases hosted with
  | expired host | alerted _ host | asked host | read host | joined _ _ _ host =>
      -- these stages lie before the teardown
      rw [host] at torn
      exact torn.elim
  | broke elapsed reason stall fault host late =>
      rw [host] at torn
      cases torn
      simp only [looks, host]
      rw [observed.config] at late
      exact ⟨rfl, (Instant.after_eq_error_iff.mp late).1, _, observed.passed, Nat.le_refl _, late⟩
  | began elapsed reason stall teardown host soon fresh =>
      rw [host] at torn
      cases torn
      simp only [looks, host]
      rw [observed.config] at soon
      rw [observed.workers] at fresh
      exact ⟨⟨_, observed.passed, Nat.le_refl _, soon⟩, nofun, rfl, fresh.symm⟩
  | looked elapsed reason stall teardown looked host now early =>
      rw [host] at torn
      obtain ⟨grace, within, waits, seen⟩ := torn
      rw [looks_polling host]
      have deadline : looked.deadline = teardown.deadline := by
        rw [now]
        rfl
      refine ⟨deadline ▸ grace, ?_, ?_, ?_⟩
      · rw [deadline]
        exact List.forall_mem_append.mpr ⟨within, List.forall_mem_singleton.mpr grace⟩
      · rw [deadline, Teardown.watch_append waits, seen, ← now, early]
        rfl
      · rw [deadline, Teardown.seen_append, seen, now]
  | ended elapsed reason stall teardown abandoned host late left =>
      rw [host] at torn
      obtain ⟨grace, within, waits, seen⟩ := torn
      rw [looks_polling host] at lasting ⊢
      rw [left]
      refine observed.abandons opened
        (List.forall_mem_append.mpr ⟨within, List.forall_mem_singleton.mpr grace⟩) rfl lasting ?_
      rw [Teardown.watch_append waits, seen, if_pos late]
  | summed elapsed reason stall abandoned host =>
      rw [host] at torn
      simp only [looks, host, List.append_nil]
      exact torn

theorem host_after (others : move ≠ .act .host) (moved : phase.after move = some next) :
    next.host = phase.host ∧ phase.looks move = [] := by
  constructor
  · by_cases watch : move = .act .monitor
    · cases watch
      exact (monitor_after moved).2.2
    · exact (others_after watch moved).2.2.1 others
  · unfold looks
    split
    · contradiction
    · rfl

theorem TearsDown.after (torn : opening.TearsDown taken phase.system.clock phase.host)
    (observed : opening.Observed phase taken) (opened : opening.Steady)
    (moved : phase.after move = some next) :
    opening.TearsDown (taken ++ phase.looks move) next.system.clock next.host := by
  by_cases own : move = .act .host
  · cases own
    obtain ⟨step, stepped, rfl⟩ := Option.map_eq_some_iff.mp moved
    exact torn.hosted observed opened moved (hosted_of_step stepped)
  · obtain ⟨host, none⟩ := host_after own moved
    obtain ⟨_, _, passed, _⟩ := system_after moved
    rw [host, none, List.append_nil]
    exact torn.later passed

theorem steady_of_start {config : Config} {criticalSection : Section σ} {shared : σ} {now : Instant}
    {events : List Event} (fits : config.resources ≤ wordMax ∧ config.workers ≤ wordMax)
    (begun : start config criticalSection shared now = .ok (phase, events)) : phase.Steady := by
  obtain ⟨_, _, rfl⟩ := begun_of_start begun
  have sized : Sized config.clamped.resources config.clamped.workers :=
    ⟨Nat.le_max_right _ _, Nat.max_le.mpr ⟨fits.1, by decide⟩, Nat.max_le.mpr ⟨fits.2, by decide⟩⟩
  exact System.reachable_steady sized (.refl ..)

theorem observed_opening (opened : phase.Steady) : phase.Observed phase [] where
  steady := opened
  config := rfl
  passed := Nat.le_refl _
  lasting := .nil
  ended := nofun
  knots _ knot := ⟨knot, fun _ _ => rfl⟩

/-- The teardown, once it is under way, goes as its looks do. -/
theorem tearsDown_of_run {elapsed : Span} {reason : EndReason} {stall : Option Stall.Report}
    {moves : List Move} (opened : opening.Steady)
    (host : opening.host = .joiningWorkers elapsed reason stall)
    (ran : moves.foldlM Phase.after opening = some phase) :
    Teardown.Lasting (history Phase.after looks opening moves) ∧
      opening.TearsDown (history Phase.after looks opening moves) phase.system.clock
        phase.host := by
  obtain ⟨observed, torn⟩ := foldlM_recorded looks []
    (fun phase taken => opening.Observed phase taken ∧
      opening.TearsDown taken phase.system.clock phase.host)
    (fun _ _ _ _ ⟨observed, torn⟩ moved =>
      ⟨observed.after moved, torn.after observed opened moved⟩) ran
    ⟨observed_opening opened, by rw [host]; rfl⟩
  exact ⟨observed.lasting, torn⟩

/-- A teardown ends with the first look after which nobody is left or the grace has run out.  Every
worker is then joined, if that look has found that it has ended, or else left, in order.  In a phase
the looks agree with each other, the host abandons those who are left, and among these are all who
were on a circular wait when the teardown was about to begin, as they were then.  Only if the end of
the grace lies past the end of the clock does the host give up, before it has looked at anybody. -/
theorem teardown_loses_nobody (config : Config) (criticalSection : Section σ) (shared : σ)
    (now : Instant) :
    (∀ (workers : List Worker) (deadline : Instant) (polls : List Poll), Teardown.Lasting polls →
      let begun : Teardown := { deadline, pending := workers }
      (begun.watch polls = none ↔ ∀ poll ∈ polls, ¬ begun.Settles poll) ∧
      ∀ final, begun.watch polls = some final → ∃ before last rest,
        polls = before ++ last :: rest ∧ (∀ poll ∈ before, ¬ begun.Settles poll) ∧
        begun.Settles last ∧ final.pending = workers.filter (! last.hasEnded ·) ∧
        final.joined.Perm (workers.filter last.hasEnded) ∧
        (final.joined ++ final.pending).Perm workers) ∧
    ∀ phase events opening elapsed reason stall moves final,
      config.resources ≤ wordMax ∧ config.workers ≤ wordMax →
      start config criticalSection shared now = .ok (phase, events) →
      Attains Phase.after phase opening →
      opening.host = .joiningWorkers elapsed reason stall →
      moves.foldlM Phase.after opening = some final →
      Teardown.Lasting (history Phase.after looks opening moves) ∧
        opening.TearsDown (history Phase.after looks opening moves) final.system.clock
          final.host := by
  refine ⟨fun workers deadline polls lasting => ⟨Teardown.watch_eq_none_iff lasting, ?_⟩, ?_⟩
  · intro final watched
    obtain ⟨before, last, rest, parts, early, settled, left, joined⟩ :=
      Teardown.watched lasting watched
    refine ⟨before, last, rest, parts, early, settled, left, joined, ?_⟩
    rw [left]
    exact (joined.append_right _).trans (List.filter_append_perm last.hasEnded workers)
  · intro phase events opening elapsed reason stall moves final fits begun attains host ran
    have opened : opening.Steady :=
      attains.invariant Steady (fun _ _ _ steady moved => steady.after moved)
        (steady_of_start fits begun)
    exact tearsDown_of_run opened host ran

def graceless : Config where
  workers := 2
  resources := 2
  joinGrace := .zero
  workload := { think := .zero, gap := .zero, work := .zero, rest := .zero }

/-- Two workers come to wait for each other before the operator stops the phase. -/
def embrace : List Move :=
  List.replicate 10 (.act (.worker ⟨0⟩)) ++ List.replicate 10 (.act (.worker ⟨1⟩)) ++
    [.stop] ++ List.replicate 4 (.act .monitor) ++ List.replicate 3 (.act .host)

def oneLook : List Move := List.replicate 2 (.act .host)

def isJoining (phase : Phase σ) : Bool :=
  match phase.host with
  | .joiningWorkers _ _ _ => true
  | _ => false

def abandoned? (phase : Phase σ) : Option (List Straggler) :=
  match phase.host with
  | .summarising _ _ _ abandoned => some abandoned
  | _ => none

theorem teardown_loses_nobody_of_a_deadlock :
    ∃ (opening final : Phase Unit) (abandoned : List Straggler) (joined : List Worker),
      oneLook.foldlM Phase.after opening = some final ∧ final.abandoned? = some abandoned ∧
      abandoned = [
        { worker := ⟨0⟩, held := .one ⟨0⟩, awaiting := some ⟨1⟩ },
        { worker := ⟨1⟩, held := .one ⟨1⟩, awaiting := some ⟨0⟩ }] ∧
      [⟨0⟩, ⟨1⟩] ∈ (opening.system.shop.graph .origin).cycles ∧
      opening.Abandons (history Phase.after looks opening oneLook) abandoned ∧
      (joined ++ abandoned.map (·.worker)).Perm (team 2) := by
  have played : (start graceless (.sleep .zero) () .origin).toOption.bind (fun begun =>
      (embrace.foldlM Phase.after begun.1).bind fun opening =>
        (oneLook.foldlM Phase.after opening).map fun final => (opening.isJoining,
          (opening.system.shop.graph .origin).cycles, opening.workers, final.abandoned?)) =
      some (true, [[⟨0⟩, ⟨1⟩]], team 2, some [
        { worker := ⟨0⟩, held := .one ⟨0⟩, awaiting := some ⟨1⟩ },
        { worker := ⟨1⟩, held := .one ⟨1⟩, awaiting := some ⟨0⟩ }]) := by
    decide +kernel
  obtain ⟨⟨phase, events⟩, begun, onward⟩ := Option.bind_eq_some_iff.mp played
  obtain ⟨opening, opened, ended⟩ := Option.bind_eq_some_iff.mp onward
  obtain ⟨final, ran, seen⟩ := Option.map_eq_some_iff.mp ended
  simp only [Prod.mk.injEq] at seen
  obtain ⟨joining, cycles, members, left⟩ := seen
  obtain ⟨elapsed, reason, stall, host⟩ : ∃ elapsed reason stall,
      opening.host = .joiningWorkers elapsed reason stall := by
    unfold isJoining at joining
    split at joining
    · exact ⟨_, _, _, ‹_›⟩
    · cases joining
  obtain ⟨watched, run⟩ := teardown_loses_nobody graceless (.sleep .zero) () .origin
  obtain ⟨lasting, torn⟩ := run phase events opening elapsed reason stall oneLook final
    ⟨by decide, by decide⟩ (eq_ok_of_toOption begun) ⟨embrace, opened⟩ host ran
  have shown := left
  unfold abandoned? at shown
  split at shown
  · rename_i abandoned ended
    have told := Option.some.inj shown
    rw [ended] at torn
    have abandons : opening.Abandons (history Phase.after looks opening oneLook) abandoned := torn
    obtain ⟨deadline, last, _, settled, same, _⟩ := torn
    obtain ⟨_, found⟩ := watched opening.workers deadline _ lasting
    obtain ⟨_, _, _, _, _, _, _, _, all⟩ := found last settled
    rw [← same, members] at all
    have listed : [⟨0⟩, ⟨1⟩] ∈ (opening.system.shop.graph .origin).cycles := by
      rw [cycles]
      exact List.mem_singleton.mpr rfl
    exact ⟨opening, final, abandoned, last.joined, ran, left.trans (congrArg some told.symm), told,
      listed, abandons, all⟩
  · cases shown

end Phase

end Contention

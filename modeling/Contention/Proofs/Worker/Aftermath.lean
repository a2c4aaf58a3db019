import Contention.Proofs.Worker.Accounts
import Contention.Proofs.Worker.Shutdown

namespace Contention

inductive Deed where
  | acquired (resource : Resource)
  | completed (number : Nat)
deriving DecidableEq, Repr

def Activity.deeds : Activity → List Deed
  | .settling guard => [.acquired guard.site.resource]
  | _ => []

def Stage.deeds : Stage → List Deed
  | .total number => [.completed number]
  | _ => []

/-- How many deeds a worker may still do from a stage on, if the flag is set.  One whose
acquire is under way counts when the slot is looked at. -/
def Stage.deedsLeft : Stage → Nat
  | .think => 1
  | .take _ => 1
  | .gap => 1
  | .inside _ => 1
  | .count => 1
  | .total _ => 1
  | _ => 0

def Activity.deedsLeft : Activity → Nat
  | .locking _ => 1
  | .recording _ => 1
  | .settling _ => 1
  | _ => 0

/-- Past the last look at the flag, and not counted in the signals yet. -/
def Stage.isCommitted : Stage → Bool
  | .inside _ => true
  | .count => true
  | .total _ => true
  | _ => false

theorem Activity.deedsLeft_le {activity : Activity} {stage : Stage}
    (allowed : stage.allows activity = true) :
    activity.deedsLeft ≤ if stage.hasTaken = true then 1 else 0 := by
  cases activity with
  | locking | recording | settling => exact Nat.le_of_eq (if_pos allowed).symm
  | idle | shifting | unlocking => exact Nat.zero_le _

theorem Workshop.Leads.deeds {before after : Activity} (leads : Workshop.Leads before after) :
    before.deeds.length + after.deedsLeft = before.deedsLeft := by
  cases leads <;> rfl

theorem Stage.of_fallen {stage : Stage} (fell : stage.isCalm = false) :
    stage.deeds = [] ∧ stage.deedsLeft = 0 ∧ stage.hasTaken = false ∧
      stage.isCommitted = false := by
  cases stage <;> first | contradiction | exact ⟨rfl, rfl, rfl, rfl⟩

theorem Stage.isCalm_of_isCommitted {stage : Stage} (committed : stage.isCommitted = true) :
    stage.isCalm = true := by
  cases stage <;> first | contradiction | rfl

theorem Stage.deedsLeft_le_one (stage : Stage) :
    stage.deedsLeft + (if stage.hasTaken = true then 1 else 0) ≤ 1 := by
  cases stage <;> simp [deedsLeft, hasTaken]

namespace Workshop

variable {shop : Workshop}

theorem sum_filter_taker {bound : Nat} (guards : List Guard)
    (takers : ∀ guard ∈ guards, guard.taker.index < bound) :
    ∑ index ∈ Finset.range bound,
      (guards.filter fun guard => decide (guard.taker = ⟨index⟩)).length = guards.length := by
  induction guards with
  | nil => simp
  | cons guard rest ih =>
      have first := Finset.mem_range.mpr (takers guard List.mem_cons_self)
      have others := ih fun other member => takers other (List.mem_cons_of_mem guard member)
      have split : ∀ index,
          ((guard :: rest).filter fun guard => decide (guard.taker = ⟨index⟩)).length =
            (rest.filter fun guard => decide (guard.taker = ⟨index⟩)).length +
              if guard.taker.index = index then 1 else 0 := by
        intro index
        have same : guard.taker = ⟨index⟩ ↔ guard.taker.index = index :=
          ⟨congrArg Worker.index, congrArg Worker.mk⟩
        by_cases equal : guard.taker.index = index <;> simp [same, equal]
      simp only [split, Finset.sum_add_distrib, others, Finset.sum_ite_eq, first, if_true,
        List.length_cons]

end Workshop

namespace System

variable {σ : Type} {regime : Regime σ} {resources workers : Nat} {system next final : System σ}
  {worker : Worker} {thread moved : Thread} {pair : Resource × Resource} {shop : Workshop}
  {signals : Signals} {shared : σ} {past : List Deed}

/-- The acquire or the operation that a worker's next step brings to its end: the slot
withdraws its announcement, or the worker counts its cycle in the signals. -/
def deeds (worker : Worker) (system : System σ) : List Deed :=
  if system.shop.isIdle worker then ((system.thread? worker).map (·.stage.deeds)).getD []
  else (system.shop.activity worker).deeds

def deedsLeft (system : System σ) (worker : Worker) : Nat :=
  ((system.thread? worker).map (·.stage.deedsLeft)).getD 0 +
    (system.shop.activity worker).deedsLeft

theorem deedsLeft_eq (found : system.thread? worker = some thread) :
    system.deedsLeft worker =
      thread.stage.deedsLeft + (system.shop.activity worker).deedsLeft := by
  rw [deedsLeft, found, Option.map_some, Option.getD_some]

theorem deeds_idle (found : system.thread? worker = some thread)
    (idle : system.shop.activity worker = .idle) : system.deeds worker = thread.stage.deeds := by
  rw [deeds, if_pos (Workshop.isIdle_iff.mpr idle), found, Option.map_some, Option.getD_some]

theorem deeds_busy (busy : system.shop.activity worker ≠ .idle) :
    system.deeds worker = (system.shop.activity worker).deeds := by
  rw [deeds, if_neg (mt Workshop.isIdle_iff.mp busy)]

theorem Steady.deedsLeft_le (steady : system.Steady regime resources workers)
    (found : system.thread? worker = some thread) :
    system.deedsLeft worker ≤
      thread.stage.deedsLeft + if thread.stage.hasTaken = true then 1 else 0 := by
  rw [deedsLeft_eq found]
  refine Nat.add_le_add_left ?_ _
  cases calm : thread.stage.isCalm with
  | true =>
      obtain ⟨pair, placed⟩ := steady.placed_of_calm found calm
      exact Activity.deedsLeft_le placed.allowed
  | false =>
      rcases steady.stands worker (steady.member_of_thread found) with ⟨same, pair, placed⟩ | fallen
      · cases found.symm.trans placed.found
        rw [placed.calm] at calm
        contradiction
      · rw [fallen.deserted.idle]
        exact Nat.zero_le _

theorem Looped.deeds (looped : system.Looped regime worker thread pair shop signals shared moved)
    (stopped : system.signals.stopped = true) :
    thread.stage.deeds.length + moved.stage.deedsLeft +
      (if moved.stage.hasTaken = true then 1 else 0) ≤ thread.stage.deedsLeft := by
  cases looped with
  | check stage => simp [stage, stopped, Stage.deeds, Stage.deedsLeft, Stage.hasTaken]
  | recheck turn stage => simp [stage, stopped, Stage.deeds, Stage.deedsLeft, Stage.hasTaken]
  | give turn onward guard stage =>
      cases turn <;> cases onward <;>
        simp [stage, Turn.backward, Stage.deeds, Stage.deedsLeft, Stage.hasTaken]
  | start stage | think _ stage | take _ stage | gap _ stage | inside _ _ stage | finish _ stage
  | count _ stage | total _ stage | rest _ _ stage | leave stage =>
      simp [stage, Stage.deeds, Stage.deedsLeft, Stage.hasTaken]

theorem Looped.committed
    (looped : system.Looped regime worker thread pair shop signals shared moved)
    (stopped : system.signals.stopped = true) :
    signals.total + (if moved.stage.isCommitted = true then 1 else 0) ≤
      system.signals.total + if thread.stage.isCommitted = true then 1 else 0 := by
  cases looped with
  | check stage => simp [stage, stopped, Stage.isCommitted]
  | recheck turn stage => simp [stage, stopped, Stage.isCommitted]
  | inside done act stage => simp [stage, Stage.isCommitted, Signals.total_asked]
  | total number stage => simp [stage, Stage.isCommitted, Signals.record]
  | give turn onward guard stage =>
      cases turn <;> cases onward <;> simp [stage, Turn.backward, Stage.isCommitted]
  | start stage | think _ stage | take _ stage | gap _ stage | finish _ stage | count _ stage
  | rest _ _ stage | leave stage => simp [stage, Stage.isCommitted]

theorem Turned.committed (turned : Turned regime system next worker thread moved)
    (stopped : system.signals.stopped = true) :
    next.signals.total + (if moved.stage.isCommitted = true then 1 else 0) ≤
      system.signals.total + if thread.stage.isCommitted = true then 1 else 0 := by
  cases turned with
  | slot pair placed advanced same signals => rw [same, signals]
  | loop pair placed idle looped => exact looped.committed stopped
  | down request before fell idle board signals =>
      obtain ⟨_, _, _, uncommitted⟩ := Stage.of_fallen fell
      rw [uncommitted, signals, Signals.total_asked]
      exact Nat.le_add_right _ _

theorem Turned.stopped (turned : Turned regime system next worker thread moved)
    (stopped : system.signals.stopped = true) : next.signals.stopped = true := by
  cases turned with
  | slot pair placed advanced same signals => rwa [signals]
  | loop pair placed idle looped => exact looped.stopped stopped
  | down request before fell idle board signals =>
      rw [signals]
      exact Signals.stopped_asked stopped request

theorem Steady.deeds_step (steady : system.Steady regime resources workers)
    (stopped : system.signals.stopped = true)
    (stepped : system.after regime (.step worker) = some next) :
    (system.deeds worker).length + next.deedsLeft worker ≤ system.deedsLeft worker := by
  obtain ⟨thread, moved, found, landed, turned⟩ := (steady.passes stepped).turned
  have left := (steady.step stepped).deedsLeft_le landed
  rw [deedsLeft_eq found]
  cases turned with
  | slot pair placed advanced same =>
      have leads := advanced.leads
      have busy : system.shop.activity worker ≠ .idle := by
        intro idle
        rw [idle] at leads
        cases leads
      have fewer := leads.deeds
      rw [deeds_busy busy, deedsLeft_eq landed, same]
      omega
  | loop pair placed idle looped =>
      have fewer := looped.deeds stopped
      rw [deeds_idle found idle]
      omega
  | down request before fell idle =>
      have none : thread.stage.deeds = [] := by
        rcases before with before | ⟨done, inside⟩
        · exact (Stage.of_fallen before).1
        · rw [inside]
          rfl
      obtain ⟨_, nothing, untaken, _⟩ := Stage.of_fallen fell
      rw [nothing, untaken, if_neg Bool.false_ne_true] at left
      rw [deeds_idle found idle, none, List.length_nil]
      omega

theorem Steady.stopped_after (steady : system.Steady regime resources workers)
    (stopped : system.signals.stopped = true) {move : Move}
    (moved : system.after regime move = some next) : next.signals.stopped = true := by
  cases move with
  | step worker =>
      obtain ⟨_, _, _, _, turned⟩ := (steady.passes moved).turned
      exact turned.stopped stopped
  | stop reason =>
      cases moved
      exact Signals.stopped_halt stopped reason
  | wait nanos =>
      cases moved
      exact stopped

/-- After a stop request, what a worker has done since and what it may still do is at most
one deed. -/
structure Closing (regime : Regime σ) (resources workers : Nat) (worker : Worker)
    (system : System σ) (past : List Deed) : Prop where
  steady : system.Steady regime resources workers
  stopped : system.signals.stopped = true
  few : past.length + system.deedsLeft worker ≤ 1

theorem Closing.step (closing : Closing regime resources workers worker system past)
    (stepped : system.after regime (.step worker) = some next) :
    Closing regime resources workers worker next (past ++ system.deeds worker) := by
  have few := closing.few
  have fewer := closing.steady.deeds_step closing.stopped stepped
  refine ⟨closing.steady.step stepped, closing.steady.stopped_after closing.stopped stepped, ?_⟩
  rw [List.length_append]
  omega

theorem Closing.foreign (closing : Closing regime resources workers worker system past)
    {move : Move} (foreign : move.isBy worker = false)
    (moved : system.after regime move = some next) :
    Closing regime resources workers worker next past := by
  obtain ⟨threads, slot, _⟩ := closing.steady.foreign foreign moved
  refine ⟨closing.steady.after moved, closing.steady.stopped_after closing.stopped moved, ?_⟩
  rw [deedsLeft, threads, slot]
  exact closing.few

theorem Steady.closing (steady : system.Steady regime resources workers)
    (stopped : system.signals.stopped = true) (member : worker.index < workers) :
    Closing regime resources workers worker system [] := by
  refine ⟨steady, stopped, ?_⟩
  have known : worker.index < system.threads.length := steady.threads ▸ member
  have left := steady.deedsLeft_le (List.getElem?_eq_getElem known)
  exact Nat.le_trans (Nat.le_of_eq (Nat.zero_add _)) (Nat.le_trans left (Stage.deedsLeft_le_one _))

theorem Steady.guards_le (steady : system.Steady regime resources workers) :
    system.shop.guards.length ≤ resources := by
  have among : system.shop.guards.map (·.site) ⊆
      (List.range resources).map fun index => site ⟨index⟩ := by
    intro place member
    obtain ⟨guard, live, rfl⟩ := List.mem_map.mp member
    have inside := steady.orderly.contains live
    obtain ⟨_, within⟩ := (Workshop.contains_iff_of_room steady.room).mp inside
    exact List.mem_map.mpr ⟨_, List.mem_range.mpr within, (steady.pool _ inside).symm⟩
  have short := steady.orderly.guarded.sites.length_le_of_subset among
  rwa [List.length_map, List.length_map, List.length_range] at short

theorem Placed.guards_committed (placed : system.Placed regime worker thread pair)
    (committed : thread.stage.isCommitted = true) : (system.shop.guardsOf worker).length = 2 := by
  have owned : thread.stage.hasTaken = false ∧ thread.stage.hasGiven = false ∧
      thread.stage.owned pair = [pair.1, pair.2] := by
    cases stage : thread.stage <;> rw [stage] at committed <;>
      first | contradiction | exact ⟨rfl, rfl, rfl⟩
  obtain ⟨untaken, ungiven, both⟩ := owned
  have sites := congrArg List.length (placed.sites (placed.idle untaken ungiven))
  rwa [both, List.length_map] at sites

theorem Steady.census_committed (steady : system.Steady regime resources workers) :
    2 * system.census Stage.isCommitted workers ≤ resources := by
  have two : ∀ index ∈ Finset.range workers,
      2 * system.vote Stage.isCommitted index ≤ (system.shop.guardsOf ⟨index⟩).length := by
    intro index member
    have known : index < system.threads.length :=
      steady.threads ▸ Finset.mem_range.mp member
    have found : system.thread? ⟨index⟩ = some system.threads[index] :=
      List.getElem?_eq_getElem known
    rw [vote, isAt_eq _ found]
    split
    · rename_i committed
      obtain ⟨pair, placed⟩ :=
        steady.placed_of_calm found (Stage.isCalm_of_isCommitted committed)
      exact Nat.le_of_eq (placed.guards_committed committed).symm
    · exact Nat.zero_le _
  have takers : ∀ guard ∈ system.shop.guards, guard.taker.index < workers := by
    intro guard live
    have onBoard := steady.orderly.takers guard live
    rwa [Workshop.OnBoard, steady.slots] at onBoard
  calc 2 * system.census Stage.isCommitted workers
      = ∑ index ∈ Finset.range workers, 2 * system.vote Stage.isCommitted index := by
        rw [census_eq_sum, Finset.mul_sum]
    _ ≤ ∑ index ∈ Finset.range workers, (system.shop.guardsOf ⟨index⟩).length :=
        Finset.sum_le_sum two
    _ = system.shop.guards.length := Workshop.sum_filter_taker system.shop.guards takers
    _ ≤ resources := steady.guards_le

/-- After a stop request, the bound on the total leaves room for every worker that is
committed. -/
structure Budget (regime : Regime σ) (resources workers bound : Nat) (system : System σ) :
    Prop where
  steady : system.Steady regime resources workers
  stopped : system.signals.stopped = true
  within : system.signals.total + system.census Stage.isCommitted workers ≤ bound

theorem Budget.after {bound : Nat} {move : Move}
    (budget : Budget regime resources workers bound system)
    (moved : system.after regime move = some next) :
    Budget regime resources workers bound next := by
  have steady := budget.steady
  have within := budget.within
  refine ⟨steady.after moved, steady.stopped_after budget.stopped moved, ?_⟩
  cases move with
  | step worker =>
      have passes := steady.passes moved
      obtain ⟨thread, landing, found, landed, turned⟩ := passes.turned
      have counted := census_turned Stage.isCommitted (steady.member_of_thread found) found landed
        passes.threads
      have grown := turned.committed budget.stopped
      omega
  | stop reason =>
      cases moved
      rwa [halt, Signals.total_halt]
  | wait nanos =>
      cases moved
      exact within

/-- After a stop request, each worker brings one acquire or one operation to its end at most,
and all of them together no more operations than there are disjoint pairs of resources. -/
theorem bounded_work_after_stop {seed : UInt64} {start : σ} {clock : Instant} {moves : List Move}
    (sized : Sized resources workers)
    (reached : Reachable regime (fresh resources workers seed start clock) system)
    (stopped : system.signals.stopped = true) (ran : system.run regime moves = some final) :
    (∀ worker, worker.index < workers →
      system.history regime worker (deeds worker) moves = [] ∨
      (∃ resource, system.history regime worker (deeds worker) moves = [.acquired resource]) ∨
      ∃ number, system.history regime worker (deeds worker) moves = [.completed number]) ∧
    final.signals.total ≤ system.signals.total + resources / 2 := by
  have steady := reachable_steady sized reached
  constructor
  · intro worker member
    have closing := run_recorded (Closing regime resources workers worker)
      (fun _ _ _ closing stepped => closing.step stepped)
      (fun _ _ _ _ closing foreign moved => closing.foreign foreign moved) ran
      (steady.closing stopped member)
    have few := closing.few
    rw [List.nil_append] at few
    cases done : system.history regime worker (deeds worker) moves with
    | nil => exact .inl rfl
    | cons deed rest =>
        rw [done, List.length_cons] at few
        have last : rest = [] := List.eq_nil_of_length_eq_zero (by omega)
        cases deed with
        | acquired resource => exact .inr (.inl ⟨resource, by rw [last]⟩)
        | completed number => exact .inr (.inr ⟨number, by rw [last]⟩)
  · have budget := run_invariant
      (Budget regime resources workers
        (system.signals.total + system.census Stage.isCommitted workers))
      (fun _ _ _ budget moved => budget.after moved) ran ⟨steady, stopped, Nat.le_refl _⟩
    have within := budget.within
    have pairs := steady.census_committed
    omega

/-- A stop is requested while one worker is in its section and the other is blocked: the one
completes its operation, the other its acquire, and that is all either of them does. -/
theorem bounded_work_after_stop_while_blocked :
    ∃ system moves final,
      Reachable (.restless .totalOrder .paired) (fresh 2 2 7 () .origin) system ∧
      system.signals.stopped = true ∧
      system.run (.restless .totalOrder .paired) moves = some final ∧
      (∃ number, system.history (.restless .totalOrder .paired) ⟨0⟩ (deeds ⟨0⟩) moves =
        [.completed number]) ∧
      (∃ resource, system.history (.restless .totalOrder .paired) ⟨1⟩ (deeds ⟨1⟩) moves =
        [.acquired resource]) ∧
      system.signals.total < final.signals.total ∧
      final.signals.total ≤ system.signals.total + 1 := by
  have seen : ∃ before moves,
      ((fresh 2 2 7 () .origin).run (.restless .totalOrder .paired) before).bind (fun system =>
        (system.run (.restless .totalOrder .paired) moves).map fun final =>
          (system.signals.stopped,
            (system.history (.restless .totalOrder .paired) ⟨0⟩ (deeds ⟨0⟩) moves).head?,
            (system.history (.restless .totalOrder .paired) ⟨1⟩ (deeds ⟨1⟩) moves).head?,
            decide (system.signals.total < final.signals.total))) =
        some (true, some (.completed 1), some (.acquired ⟨0⟩), true) :=
    ⟨List.replicate 14 (.step ⟨0⟩) ++ List.replicate 4 (.step ⟨1⟩) ++ [.stop .operator],
      List.replicate 12 (.step ⟨0⟩) ++ List.replicate 8 (.step ⟨1⟩), by decide +kernel⟩
  obtain ⟨before, moves, moved⟩ := seen
  obtain ⟨system, found, onward⟩ := Option.bind_eq_some_iff.mp moved
  obtain ⟨final, ran, seen⟩ := Option.map_eq_some_iff.mp onward
  simp only [Prod.mk.injEq, decide_eq_true_eq] at seen
  obtain ⟨stopped, ahead, behind, grown⟩ := seen
  have reached : Reachable (.restless .totalOrder .paired) (fresh 2 2 7 () .origin) system :=
    ⟨before, found⟩
  obtain ⟨few, total⟩ :=
    bounded_work_after_stop ⟨by decide, by decide, by decide⟩ reached stopped ran
  refine ⟨system, moves, final, reached, stopped, ran, ?_, ?_, grown, total⟩
  · rcases few ⟨0⟩ (by decide) with none | ⟨resource, one⟩ | one
    · simp [none] at ahead
    · simp [one] at ahead
    · exact one
  · rcases few ⟨1⟩ (by decide) with none | one | ⟨number, one⟩
    · simp [none] at behind
    · exact one
    · simp [one] at behind

end System

end Contention

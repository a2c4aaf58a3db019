import Contention.Phase.Basic
import Contention.Proofs.Worker.Census
import Contention.Proofs.Worker.Steady
import Mathlib.Algebra.BigOperators.Fin

namespace Contention

/-- The cycle is counted on the worker's record and not yet in the signals. -/
def Stage.isHalfCounted : Stage → Bool
  | .total _ => true
  | _ => false

theorem Stage.not_halfCounted {stage : Stage} (fell : stage.isCalm = false) :
    stage.isHalfCounted = false := by
  cases stage <;> first | rfl | contradiction

theorem foldlM_addWords {start : Nat} (fits : start ≤ wordMax) (numbers : List Nat) :
    numbers.foldlM addWords start = addWords start numbers.sum := by
  induction numbers generalizing start with
  | nil => exact (if_pos fits).symm
  | cons number rest ih =>
      rw [List.foldlM_cons, List.sum_cons]
      by_cases sum : start + number ≤ wordMax
      · have first : addWords start number = .ok (start + number) := if_pos sum
        rw [first]
        exact (ih sum).trans (by rw [addWords, addWords, Nat.add_assoc])
      · have first : addWords start number = .error .sumOverflow := if_neg sum
        have whole : ¬ start + (number + rest.sum) ≤ wordMax := by omega
        rw [first, addWords, if_neg whole]
        rfl

/-- The order does not matter: a sum fails iff it does not fit as a whole. -/
theorem sumWords_eq (numbers : List Nat) : sumWords numbers = addWords 0 numbers.sum :=
  foldlM_addWords (Nat.zero_le wordMax) numbers

namespace Workshop

variable {shop next : Workshop} {worker : Worker}

def completed (shop : Workshop) (worker : Worker) : Nat :=
  ((shop.board.record? worker).map (·.completed)).getD 0

theorem completed_eq {record : Record} (found : shop.board.record? worker = some record) :
    shop.completed worker = record.completed := by
  rw [completed, found, Option.map_some, Option.getD_some]

theorem completed_rewrite (shop : Workshop) (worker : Worker) (change : Record → Record)
    (kept : ∀ record, (change record).completed = record.completed) :
    (shop.rewrite worker change).completed worker = shop.completed worker := by
  rw [completed, completed, rewrite, Board.record?_update, if_pos rfl, Option.map_map]
  simp only [Function.comp_def, kept]

theorem completed_complete {record : Record} (found : shop.board.record? worker = some record)
    (now : Instant) : (shop.complete worker now).completed worker = record.completed + 1 :=
  completed_eq (record?_rewrite found)

theorem completed_beginAcquire (shop : Workshop) (worker : Worker) (site : Site) :
    (shop.beginAcquire worker site).shop.completed worker = shop.completed worker := by
  unfold beginAcquire
  split
  · rfl
  · split
    · rfl
    · exact completed_rewrite shop worker (·.publish site.resource) fun _ => rfl

theorem completed_beginRelease (shop : Workshop) (worker : Worker) (guard : Guard) :
    (shop.beginRelease worker guard).shop.completed worker = shop.completed worker := by
  unfold beginRelease
  split
  · rfl
  · dsimp only
    split
    · exact completed_rewrite shop worker Record.clearSecond fun _ => rfl
    · split
      · exact completed_rewrite shop worker Record.moveUp fun _ => rfl
      · rfl

theorem Advanced.completed (advanced : shop.Advanced worker next) :
    next.completed worker = shop.completed worker := by
  cases advanced with
  | lock site => rfl
  | note guard =>
      refine completed_rewrite shop worker (·.note guard.site.resource) fun record => ?_
      unfold Record.note
      cases record.first <;> rfl
  | settle guard => exact completed_rewrite shop worker Record.settle fun _ => rfl
  | clear guard => exact completed_rewrite shop worker Record.clearSecond fun _ => rfl
  | unlock guard => rfl

theorem Frame.completed {before after : Workshop} (frame : Frame before after worker)
    {other : Worker} (apart : other ≠ worker) : after.completed other = before.completed other := by
  rw [Workshop.completed, frame.record? other apart, Workshop.completed]

theorem sum_completedByWorker (shop : Workshop) :
    shop.board.completedByWorker.sum =
      ∑ index ∈ Finset.range shop.board.size, shop.completed ⟨index⟩ := by
  rw [Board.completedByWorker, ← Fin.sum_univ_fun_getElem, Finset.sum_range]
  refine Finset.sum_congr rfl fun index _ => ?_
  have found : shop.board.record? ⟨index⟩ = some shop.board.records[index] :=
    List.getElem?_eq_getElem index.isLt
  exact (completed_eq found).symm

end Workshop

namespace System

variable {σ : Type} {regime : Regime σ} {resources workers : Nat} {system next : System σ}
  {worker : Worker} {thread moved : Thread} {pair : Resource × Resource} {shop : Workshop}
  {signals : Signals} {shared : σ}

theorem Looped.balanced
    (looped : system.Looped regime worker thread pair shop signals shared moved) :
    shop.completed worker + system.signals.total +
        (if thread.stage.isHalfCounted = true then 1 else 0) =
      system.shop.completed worker + signals.total +
        if moved.stage.isHalfCounted = true then 1 else 0 := by
  cases looped with
  | check stage =>
      rw [stage]
      cases system.signals.stopped <;> rfl
  | take turn stage =>
      rw [stage, Workshop.completed_beginAcquire]
      rfl
  | recheck turn stage =>
      rw [stage]
      cases system.signals.stopped <;> cases turn <;> rfl
  | inside done act stage =>
      rw [stage, Signals.total_asked]
      rfl
  | count record stage found =>
      rw [stage, Workshop.completed_complete found, Workshop.completed_eq found]
      simp only [Stage.isHalfCounted, Bool.false_eq_true, if_true, if_false]
      omega
  | total count stage =>
      rw [stage]
      rfl
  | give turn onward guard stage =>
      rw [stage, Workshop.completed_beginRelease]
      cases turn <;> cases onward <;> rfl
  | start stage | think _ stage | gap _ stage | finish _ stage | rest _ _ stage | leave stage =>
      rw [stage]
      rfl

theorem Turned.balanced (turned : Turned regime system next worker thread moved) :
    next.shop.completed worker + system.signals.total +
        (if thread.stage.isHalfCounted = true then 1 else 0) =
      system.shop.completed worker + next.signals.total +
        if moved.stage.isHalfCounted = true then 1 else 0 := by
  cases turned with
  | slot pair placed advanced same signals => rw [same, signals, advanced.completed]
  | loop pair placed idle looped => exact looped.balanced
  | down request before fell idle board signals =>
      have uncounted : thread.stage.isHalfCounted = false := by
        rcases before with before | ⟨done, inside⟩
        · exact Stage.not_halfCounted before
        · rw [inside]
          rfl
      rw [uncounted, Stage.not_halfCounted fell, signals, Signals.total_asked, Workshop.completed,
        board, Workshop.completed]

def Accounted (system : System σ) (workers : Nat) : Prop :=
  ∑ index ∈ Finset.range workers, system.shop.completed ⟨index⟩ =
    system.signals.total + system.census Stage.isHalfCounted workers

theorem Accounted.step (accounted : system.Accounted workers)
    (steady : system.Steady regime resources workers)
    (stepped : system.after regime (.step worker) = some next) : next.Accounted workers := by
  have passes := steady.passes stepped
  have member := steady.member stepped
  obtain ⟨thread, moved, found, landed, turned⟩ := passes.turned
  have records : ∑ index ∈ Finset.range workers, next.shop.completed ⟨index⟩ +
        system.shop.completed worker =
      ∑ index ∈ Finset.range workers, system.shop.completed ⟨index⟩ +
        next.shop.completed worker :=
    @sum_with_one_changed workers worker.index _ (fun index => next.shop.completed ⟨index⟩) member
      fun other apart => passes.frame.completed fun same => apart (congrArg Worker.index same)
  have between := census_turned Stage.isHalfCounted member found landed passes.threads
  have balanced := turned.balanced
  unfold Accounted at accounted ⊢
  omega

theorem Accounted.after (accounted : system.Accounted workers)
    (steady : system.Steady regime resources workers) {move : Move}
    (moved : system.after regime move = some next) : next.Accounted workers := by
  cases move with
  | step worker => exact accounted.step steady moved
  | stop reason =>
      cases moved
      exact accounted.trans (congrArg (· + _) (Signals.total_halt _ reason).symm)
  | wait nanos =>
      cases moved
      exact accounted

theorem completed_fresh (seed : UInt64) (shared : σ) (clock : Instant)
    (member : worker.index < workers) :
    (fresh resources workers seed shared clock).shop.completed worker = 0 := by
  have stored : (fresh resources workers seed shared clock).shop.board.record? worker =
      some (.fresh clock) := by
    simp only [fresh, Workshop.fresh, Board.ofSize, Board.record?, List.getElem?_replicate,
      if_pos member]
  exact Workshop.completed_eq stored

theorem accounted_fresh (resources workers : Nat) (seed : UInt64) (shared : σ) (clock : Instant) :
    (fresh resources workers seed shared clock).Accounted workers := by
  have records : ∀ index ∈ Finset.range workers,
      (fresh resources workers seed shared clock).shop.completed ⟨index⟩ = 0 :=
    fun index member => completed_fresh seed shared clock (Finset.mem_range.mp member)
  rw [Accounted, Finset.sum_eq_zero records, census_eq_zero]
  · rfl
  · intro worker member
    rw [isAt_eq _ ((thread?_fresh ..).trans (if_pos member))]
    rfl

theorem reachable_accounted {seed : UInt64} {start : σ} {clock : Instant}
    (sized : Sized resources workers)
    (reached : Reachable regime (fresh resources workers seed start clock) system) :
    system.Accounted workers :=
  reached.induct (fun system => system.Accounted workers)
    (fun _ _ _ before accounted moved => accounted.after (reachable_steady sized before) moved)
    (accounted_fresh resources workers seed start clock)

/-- Nobody is between the two counts who has ended or is blocked. -/
theorem Steady.census_halfCounted (steady : system.Steady regime resources workers)
    (still : ∀ worker, worker.index < workers →
      system.hasEnded worker = true ∨ ∃ place, system.shop.activity worker = .locking place) :
    system.census Stage.isHalfCounted workers = 0 := by
  refine census_eq_zero fun worker member => ?_
  rcases still worker member with ended | ⟨place, locking⟩
  · unfold hasEnded at ended
    cases found : system.thread? worker with
    | none => rw [isAt, found, Option.any_none]
    | some thread =>
        rw [found] at ended
        rw [isAt_eq _ found]
        unfold Thread.hasEnded at ended
        cases stage : thread.stage <;> first | rfl | simp [stage] at ended
  · rcases steady.stands worker member with ⟨thread, pair, placed⟩ | fallen
    · obtain ⟨turn, stage, _⟩ := placed.blocked locking
      rw [isAt_eq _ placed.found, stage]
      rfl
    · cases locking.symm.trans fallen.deserted.idle

/-- The records are ahead of the signals by one for each worker that has counted its cycle
on its record only.  A summary of counts that are read when all workers have ended or are
blocked adds up, as long as the counts are words at all. -/
theorem progress_accounted {seed : UInt64} {start : σ} {clock : Instant}
    (sized : Sized resources workers)
    (reached : Reachable regime (fresh resources workers seed start clock) system) :
    system.shop.board.completedSum =
        addWords system.signals.total (system.census Stage.isHalfCounted workers) ∧
      ((∀ worker, worker.index < workers →
          system.hasEnded worker = true ∨ ∃ place, system.shop.activity worker = .locking place) →
        ∀ (phase : Phase σ) elapsed reason stall abandoned, phase.system = system →
          (phase.summary elapsed reason stall abandoned).addsUp =
            if system.signals.total ≤ wordMax then .ok true else .error .sumOverflow) := by
  have steady := reachable_steady sized reached
  have accounted := reachable_accounted sized reached
  have size : system.shop.board.size = workers := steady.orderly.slots.trans steady.slots
  have sum : sumWords system.shop.board.completedByWorker =
      addWords system.signals.total (system.census Stage.isHalfCounted workers) := by
    rw [sumWords_eq, Workshop.sum_completedByWorker, size, accounted, addWords, addWords,
      Nat.zero_add]
  refine ⟨sum, fun still phase elapsed reason stall abandoned same => ?_⟩
  rw [steady.census_halfCounted still] at sum
  simp only [Phase.summary, Phase.Summary.addsUp, same, sum, addWords, Nat.add_zero]
  split
  · simp [Except.map]
  · rfl

/-- One worker is between its two counts; later it has begun a second cycle, and both
workers are blocked for good. -/
theorem progress_accounted_up_to_a_deadlock :
    ∃ system final, Reachable (.restless .unordered .paired) (fresh 2 2 7 () .origin) system ∧
      system.signals.total = 0 ∧ system.shop.board.completedSum = .ok 1 ∧
      Reachable (.restless .unordered .paired) system final ∧
      (∀ worker, worker.index < 2 → ∃ place, final.shop.activity worker = .locking place) ∧
      ∀ (phase : Phase Unit) elapsed reason stall abandoned, phase.system = final →
        (phase.summary elapsed reason stall abandoned).addsUp = .ok true := by
  have moved : ((fresh 2 2 7 () .origin).run (.restless .unordered .paired)
      (List.replicate 17 (.step ⟨0⟩))).bind (fun system =>
        (system.run (.restless .unordered .paired) (List.replicate 15 (.step ⟨0⟩) ++
          List.replicate 10 (.step ⟨1⟩) ++ [.step ⟨0⟩])).map fun final =>
            (system.signals.total, system.census Stage.isHalfCounted 2, final.signals.total,
              final.shop.activity ⟨0⟩, final.shop.activity ⟨1⟩)) =
      some (0, 1, 1, .locking ⟨0, ⟨1⟩⟩, .locking ⟨0, ⟨0⟩⟩) := by
    rfl
  obtain ⟨system, found, onward⟩ := Option.bind_eq_some_iff.mp moved
  obtain ⟨final, run, seen⟩ := Option.map_eq_some_iff.mp onward
  simp only [Prod.mk.injEq] at seen
  obtain ⟨before, between, total, first, second⟩ := seen
  have reached : Reachable (.restless .unordered .paired) (fresh 2 2 7 () .origin) system :=
    ⟨_, found⟩
  have sized : Sized 2 2 := ⟨by decide, by decide, by decide⟩
  have blocked : ∀ worker : Worker, worker.index < 2 →
      ∃ place, final.shop.activity worker = .locking place := by
    rintro ⟨_ | _ | index⟩ member
    · exact ⟨_, first⟩
    · exact ⟨_, second⟩
    · exact absurd member (Nat.not_lt_of_le (Nat.le_add_left 2 index))
  obtain ⟨sum, _⟩ := progress_accounted sized reached
  obtain ⟨_, consistent⟩ := progress_accounted sized (reached.trans ⟨_, run⟩)
  rw [before, between] at sum
  refine ⟨system, final, reached, before, sum, ⟨_, run⟩, blocked, ?_⟩
  intro phase elapsed reason stall abandoned same
  have summed := consistent (fun worker member => .inr (blocked worker member)) phase elapsed
    reason stall abandoned same
  rwa [total] at summed

end System

end Contention

import Contention.Proofs.Rings
import Contention.Proofs.WaitGraph.Search
import Contention.Proofs.Worker.Waiting

namespace Contention

variable {σ : Type}

/-- How many steps a worker that sees no stop takes until it has asked for its second
resource, if it has not yet done so. -/
def Stage.approach : Stage → Activity → Option Nat
  | .start, .idle => some 10
  | .check, .idle => some 9
  | .think, .idle => some 8
  | .take .first, .idle => some 7
  | .recheck .first, .locking _ => some 6
  | .recheck .first, .recording _ => some 5
  | .recheck .first, .settling _ => some 4
  | .recheck .first, .idle => some 3
  | .gap, .idle => some 2
  | .take .second, .idle => some 1
  | .recheck .second, .locking _ => some 0
  | _, _ => none

theorem Stage.approach_leads {stage : Stage} {before after : Activity} {distance : Nat}
    (leads : Workshop.Leads before after) (near : stage.approach before = some (distance + 1)) :
    stage.approach after = some distance := by
  cases stage with
  | recheck turn => cases turn <;> cases leads <;> cases near <;> rfl
  | take turn => cases turn <;> cases leads <;> cases near
  | _ => cases leads <;> cases near

theorem Stage.arrived {stage : Stage} {activity : Activity}
    (near : stage.approach activity = some 0) :
    stage = .recheck .second ∧ ∃ place, activity = .locking place := by
  cases stage with
  | recheck turn =>
      cases turn <;> cases activity <;> cases near
      exact ⟨rfl, _, rfl⟩
  | take turn => cases turn <;> cases activity <;> cases near
  | _ => cases activity <;> cases near

namespace System

variable {regime : Regime σ} {resources workers : Nat} {system next final : System σ}
  {worker left right : Worker} {thread moved : Thread} {pair : Resource × Resource}
  {shop : Workshop} {signals : Signals} {shared : σ} {distance : Nat}

theorem Looped.approach
    (looped : system.Looped regime worker thread pair shop signals shared moved)
    (placed : system.Placed regime worker thread pair) (orderly : system.shop.Orderly)
    (idle : system.shop.activity worker = .idle) (running : system.signals.stopped = false)
    (near : thread.stage.approach .idle = some (distance + 1)) :
    moved.stage.approach (shop.activity worker) = some distance ∧ signals = system.signals := by
  cases looped with
  | start stage | think _ stage | gap _ stage =>
      rw [stage] at near
      cases near
      exact ⟨congrArg _ idle, rfl⟩
  | check stage =>
      rw [stage] at near
      cases near
      rw [running, idle]
      exact ⟨rfl, rfl⟩
  | take turn stage =>
      obtain ⟨_, locking⟩ := placed.asks orderly idle stage
      rw [stage] at near
      rw [locking]
      cases turn <;> cases near <;> exact ⟨rfl, rfl⟩
  | recheck turn stage =>
      rw [stage] at near
      rw [running, idle]
      cases turn <;> cases near
      exact ⟨rfl, rfl⟩
  | inside _ _ stage | finish _ stage | count _ stage | total _ stage | give _ _ _ stage
  | rest _ _ stage | leave stage =>
      rw [stage] at near
      cases near

theorem Coherent.closer (coherent : system.Coherent regime resources workers)
    (placed : system.Placed regime worker thread pair) (running : system.signals.stopped = false)
    (near : thread.stage.approach (system.shop.activity worker) = some (distance + 1))
    (free : ∀ other guard, other ≠ worker → guard ∈ system.shop.guardsOf other →
      guard.site ≠ site pair.1) :
    ∃ next, system.after regime (.step worker) = some next ∧
      next.Coherent regime resources workers ∧ Lands regime system next worker pair ∧
      next.signals = system.signals ∧ ∃ moved, next.Placed regime worker moved pair ∧
        moved.stage.approach (next.shop.activity worker) = some distance := by
  have yields : system.Yields regime worker := by
    intro same _ done _ found _ stage
    cases placed.found.symm.trans found
    rw [stage] at near
    cases near
  have possible := placed.next coherent.orderly yields
  cases stepped : system.after regime (.step worker) with
  | none =>
      rw [stepped] at possible
      cases possible with
      | exited idle stage =>
          rw [stage, idle] at near
          cases near
      | blocked place locking held =>
          obtain ⟨turn, stage, rfl, sites⟩ := placed.blocked locking
          obtain ⟨guard, live, same⟩ := (coherent.orderly.guarded.held _).mp held
          rw [stage, locking] at near
          cases turn with
          | second => cases near
          | first =>
              have own := Workshop.mem_guardsOf.mpr ⟨live, rfl⟩
              by_cases mine : guard.taker = worker
              · rw [mine, List.map_eq_nil_iff.mp sites] at own
                contradiction
              · exact absurd same (free guard.taker guard mine own)
  | some next =>
      rw [stepped] at possible
      have lands := possible.lands placed coherent.orderly
      obtain ⟨moved, landed⟩ := lands.placed
      refine ⟨next, rfl, coherent.step yields stepped, lands, ?_⟩
      rcases possible.turned placed.found landed.found with
        ⟨advanced, rfl, same, _⟩ | ⟨idle, looped⟩
      · exact ⟨same, moved, landed, Stage.approach_leads advanced.leads near⟩
      · rw [idle] at near
        obtain ⟨closer, same⟩ := looped.approach placed coherent.orderly idle running near
        exact ⟨same, moved, landed, closer⟩

/-- A worker has got alone to where it has its first resource and asks for its second. -/
structure Arrived (regime : Regime σ) (resources workers : Nat) (system final : System σ)
    (worker : Worker) (pair : Resource × Resource) : Prop where
  reached : Reachable regime system final
  coherent : final.Coherent regime resources workers
  signals : final.signals = system.signals
  frame : Workshop.Frame system.shop final.shop worker
  threads : ∀ other, other ≠ worker → final.thread? other = system.thread? other
  locking : final.shop.activity worker = .locking (site pair.2)
  sites : (final.shop.guardsOf worker).map (·.site) = [site pair.1]

theorem Arrived.head (arrived : Arrived regime resources workers next final worker pair)
    (stepped : system.after regime (.step worker) = some next)
    (lands : Lands regime system next worker pair) (same : next.signals = system.signals) :
    Arrived regime resources workers system final worker pair where
  reached := ((Reachable.refl regime system).tail stepped).trans arrived.reached
  coherent := arrived.coherent
  signals := arrived.signals.trans same
  frame := lands.sound.frame.trans arrived.frame
  threads other apart := (arrived.threads other apart).trans (lands.threads other apart)
  locking := arrived.locking
  sites := arrived.sites

theorem Coherent.approach (coherent : system.Coherent regime resources workers)
    (placed : system.Placed regime worker thread pair) (running : system.signals.stopped = false)
    (near : thread.stage.approach (system.shop.activity worker) = some distance)
    (free : ∀ other guard, other ≠ worker → guard ∈ system.shop.guardsOf other →
      guard.site ≠ site pair.1) :
    ∃ final, Arrived regime resources workers system final worker pair := by
  induction distance generalizing system thread with
  | zero =>
      obtain ⟨stage, place, locking⟩ := Stage.arrived near
      obtain ⟨turn, again, rfl, sites⟩ := placed.blocked locking
      cases stage.symm.trans again
      exact ⟨system, .refl _ _, coherent, rfl, .refl _ _, fun _ _ => rfl, locking, sites⟩
  | succ distance ih =>
      obtain ⟨next, stepped, still, lands, same, moved, landed, closer⟩ :=
        coherent.closer placed running near free
      obtain ⟨final, arrived⟩ := ih still landed (same ▸ running) closer
        fun other guard apart own =>
          free other guard apart (lands.sound.frame.guardsOf other apart ▸ own)
      exact ⟨final, arrived.head stepped lands same⟩

theorem Coherent.waits_for {place awaited : Site}
    (coherent : system.Coherent regime resources workers)
    (locking : system.shop.activity left = .locking place)
    (blocked : system.shop.activity right = .locking awaited)
    (sites : (system.shop.guardsOf right).map (·.site) = [place]) (now : Instant) :
    (system.shop.graph now).blocker left = some right := by
  obtain ⟨guard, own, held⟩ := List.mem_map.mp (sites ▸ List.mem_singleton_self place)
  refine coherent.blocker_of_locking locking own held ?_ now
  rw [blocked]
  trivial

theorem Placed.outset (placed : system.Placed regime worker thread pair)
    (stage : thread.stage = .start) :
    thread.stage.approach (system.shop.activity worker) = some 10 := by
  rw [placed.idle (by rw [stage]; rfl) (by rw [stage]; rfl), stage]
  rfl

/-- Two workers with opposite routes can come to wait for each other, whatever their
sections and their delays are. -/
theorem opposed_deadlock {seed : UInt64} {start : σ} {clock : Instant}
    (sized : Sized resources workers)
    (opposed : Opposed regime.mode regime.pairing resources left right)
    (lower : left.index < right.index) (member : right.index < workers) :
    ∃ system, Reachable regime (fresh resources workers seed start clock) system ∧
      ∀ now, [left, right] ∈ (system.shop.graph now).cycles := by
  obtain ⟨pair, leftRoute, rightRoute⟩ := opposed
  have apart : right ≠ left := fun same => Nat.ne_of_lt lower (congrArg Worker.index same.symm)
  -- first the left one goes to where it has its first resource
  have begin := coherent_fresh regime sized seed start clock
  obtain ⟨leftThread, leftPair, leftPlaced⟩ := begin.placed left (Nat.lt_trans lower member)
  cases leftRoute.symm.trans (begin.resources_eq ▸ leftPlaced.route)
  obtain ⟨middle, early⟩ := begin.approach leftPlaced rfl
    (leftPlaced.outset (stage_fresh leftPlaced.found)) fun other guard _ own => by cases own
  -- then the right one, to whose first resource the left one has not come
  obtain ⟨rightThread, rightPair, rightPlaced⟩ := early.coherent.placed right member
  cases rightRoute.symm.trans (early.coherent.resources_eq ▸ rightPlaced.route)
  have outset := (early.threads right apart).symm.trans rightPlaced.found
  have free : ∀ other guard, other ≠ right → guard ∈ middle.shop.guardsOf other →
      guard.site ≠ site pair.swap.1 := by
    intro other guard _ own
    by_cases mine : other = left
    · subst mine
      have among : guard.site ∈ [site pair.1] := early.sites ▸ List.mem_map_of_mem own
      rw [List.mem_singleton.mp among]
      exact fun same => leftPlaced.routed.different (congrArg Site.resource same)
    · rw [early.frame.guardsOf other mine] at own
      cases own
  obtain ⟨final, late⟩ := early.coherent.approach rightPlaced (early.signals ▸ rfl)
    (rightPlaced.outset (stage_fresh outset)) free
  have leftLocking : final.shop.activity left = .locking (site pair.2) :=
    (late.frame.activity left apart.symm).trans early.locking
  have leftSites : (final.shop.guardsOf left).map (·.site) = [site pair.1] :=
    (congrArg _ (late.frame.guardsOf left apart.symm)).trans early.sites
  exact ⟨final, early.reached.trans late.reached, fun now => WaitGraph.mem_cycles_iff.mpr
    (WaitGraph.isCycle_pair lower
      (late.coherent.waits_for leftLocking late.locking late.sites now)
      (late.coherent.waits_for late.locking leftLocking leftSites now))⟩

end System

end Contention

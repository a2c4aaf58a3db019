import Contention.Proofs.Occupancy
import Contention.Proofs.Worker.Census
import Contention.Proofs.Worker.Waiting

namespace Contention

def Stage.claims (pair : Resource × Resource) : Stage → List Resource
  | .inside done => Occupancy.claimed pair done
  | _ => []

def Stage.pending : Stage → Nat
  | .inside 0 => 0
  | .inside _ => 1
  | .count => 1
  | .total _ => 1
  | _ => 0

theorem Holding.eq_two {held : Holding} {first second : Resource}
    (listed : held.toList = [first, second]) : held = .two first second := by
  cases held <;> cases listed
  rfl

/-- Workers that never sleep and check on each other. -/
def Regime.watchful (mode : Mode) (pairing : Pairing) : Regime Occupancy where
  mode := mode
  pairing := pairing
  workload := (Regime.restless mode pairing).workload
  criticalSection := Occupancy.criticalSection .zero

namespace System

section

variable {σ : Type} {regime : Regime σ} {resources workers : Nat} {system next : System σ}
  {worker left right : Worker} {thread moved : Thread} {resource : Resource} {done : Nat}
  {pair leftPair rightPair : Resource × Resource}

def Inside (regime : Regime σ) (system : System σ) (worker : Worker)
    (pair : Resource × Resource) : Prop :=
  route regime.mode regime.pairing system.resources worker = .ok pair ∧
    ∃ thread done, system.thread? worker = some thread ∧ thread.stage = .inside done

theorem Placed.idle_inside (placed : system.Placed regime worker thread pair)
    (stage : thread.stage = .inside done) : system.shop.activity worker = .idle :=
  placed.idle (by rw [stage]; rfl) (by rw [stage]; rfl)

theorem Placed.sites_inside (placed : system.Placed regime worker thread pair)
    (stage : thread.stage = .inside done) :
    (system.shop.guardsOf worker).map (·.site) = [site pair.1, site pair.2] := by
  rw [placed.sites (placed.idle_inside stage), stage]
  rfl

theorem Placed.guard_inside (placed : system.Placed regime worker thread pair)
    (stage : thread.stage = .inside done) (member : resource ∈ [pair.1, pair.2]) :
    ∃ guard ∈ system.shop.guardsOf worker, guard.site = site resource := by
  refine List.mem_map.mp ?_
  rw [placed.sites_inside stage]
  exact List.mem_map_of_mem (f := site) member

theorem Placed.held_inside (placed : system.Placed regime worker thread pair)
    (stage : thread.stage = .inside done) :
    ∃ record, system.shop.board.record? worker = some record ∧
      record.held = .two pair.1 pair.2 := by
  have idle := placed.idle_inside stage
  obtain ⟨record, shown, found, accurate⟩ := placed.truthful
  rw [idle] at accurate
  obtain ⟨rfl, still⟩ := accurate.shows.resting trivial
  refine ⟨record, found, Holding.eq_two ?_⟩
  have named : (system.shop.guardsOf worker).map (·.site.resource) =
      ((system.shop.guardsOf worker).map (·.site)).map (·.resource) := by
    rw [List.map_map]
    rfl
  rw [accurate.held_toList still, named, placed.sites_inside stage]
  rfl

theorem Placed.step_inside (placed : system.Placed regime worker thread pair)
    (stage : thread.stage = .inside done) :
    system.step regime worker = some (system.sectionStep worker thread
      (regime.criticalSection.script worker pair) done) := by
  obtain ⟨chosen, stepped⟩ := placed.step_idle (placed.idle_inside stage)
  rw [stepped]
  simp only [loopStep, stage]

theorem Coherent.placed_inside (coherent : system.Coherent regime resources workers)
    (inside : system.Inside regime worker pair) :
    ∃ thread done, thread.stage = .inside done ∧ system.Placed regime worker thread pair := by
  obtain ⟨route, thread, done, found, stage⟩ := inside
  obtain ⟨same, samePair, placed⟩ := coherent.placed worker (coherent.member_of_thread found)
  cases found.symm.trans placed.found
  cases route.symm.trans placed.route
  exact ⟨thread, done, stage, placed⟩

theorem Coherent.exclusive (coherent : system.Coherent regime resources workers)
    (leftInside : system.Inside regime left leftPair)
    (rightInside : system.Inside regime right rightPair) (apart : left ≠ right) :
    [leftPair.1, leftPair.2].Disjoint [rightPair.1, rightPair.2] := by
  obtain ⟨_, _, leftStage, leftPlaced⟩ := coherent.placed_inside leftInside
  obtain ⟨_, _, rightStage, rightPlaced⟩ := coherent.placed_inside rightInside
  intro resource leftMember rightMember
  obtain ⟨leftGuard, leftOwn, leftSame⟩ := leftPlaced.guard_inside leftStage leftMember
  obtain ⟨rightGuard, rightOwn, rightSame⟩ := rightPlaced.guard_inside rightStage rightMember
  exact apart (coherent.orderly.guarded.owner_eq leftOwn rightOwn (leftSame.trans rightSame.symm))

def claims (regime : Regime σ) (system : System σ) (worker : Worker) : List Resource :=
  match system.thread? worker, route regime.mode regime.pairing system.resources worker with
  | some thread, .ok pair => thread.stage.claims pair
  | _, _ => []

def pending (system : System σ) (index : Nat) : Nat :=
  match system.thread? ⟨index⟩ with
  | some thread => thread.stage.pending
  | none => 0

theorem Placed.claims_eq (placed : system.Placed regime worker thread pair) :
    system.claims regime worker = thread.stage.claims pair := by
  simp only [claims, placed.found, placed.route]

theorem Coherent.claimed (coherent : system.Coherent regime resources workers)
    (member : resource ∈ system.claims regime worker) :
    ∃ guard ∈ system.shop.guardsOf worker, guard.site = site resource := by
  unfold claims at member
  split at member
  · rename_i thread pair found route
    cases stage : thread.stage with
    | inside done =>
        obtain ⟨_, _, again, placed⟩ := coherent.placed_inside ⟨route, thread, done, found, stage⟩
        rw [stage] at member
        exact placed.guard_inside again (Occupancy.mem_of_claimed member)
    | _ =>
        rw [stage] at member
        cases member
  · cases member

theorem Lands.claims (lands : Lands regime system next worker pair)
    (landed : next.Placed regime worker moved pair) :
    next.claims regime =
      Function.update (system.claims regime) worker (moved.stage.claims pair) := by
  have size := resources_framed lands.sound.frame
  funext other
  by_cases same : other = worker
  · rw [same, Function.update_self, landed.claims_eq]
  · rw [Function.update_of_ne same]
    unfold System.claims
    rw [lands.threads other same, size]

theorem Lands.pending (lands : Lands regime system next worker pair)
    (placed : system.Placed regime worker thread pair)
    (landed : next.Placed regime worker moved pair) (member : worker.index < workers) :
    ∑ index ∈ Finset.range workers, next.pending index + thread.stage.pending =
      ∑ index ∈ Finset.range workers, system.pending index + moved.stage.pending := by
  have before : system.pending worker.index = thread.stage.pending := by
    simp only [System.pending, placed.found]
  have after : next.pending worker.index = moved.stage.pending := by
    simp only [System.pending, landed.found]
  rw [← before, ← after]
  refine sum_with_one_changed member fun other apart => ?_
  have different : (⟨other⟩ : Worker) ≠ worker := fun same => apart (congrArg Worker.index same)
  simp only [System.pending, lands.threads ⟨other⟩ different]

end

variable {regime : Regime Occupancy} {resources workers : Nat} {system next : System Occupancy}
  {worker : Worker} {thread moved : Thread} {done : Nat} {pair : Resource × Resource}
  {maxHold : Span} {shop : Workshop} {signals : Signals} {shared : Occupancy}
  {act : Section.Step Occupancy}

/-- The check has found nothing wrong, its cells are as the sections have claimed them,
and each section that was entered is counted or still to be counted. -/
structure Watched (regime : Regime Occupancy) (resources workers : Nat)
    (system : System Occupancy) : Prop where
  coherent : system.Coherent regime resources workers
  size : system.shared.cells.length = resources
  reflects : Reflects system.shared.cells (system.claims regime)
  clean : system.shared.violations = 0
  counted : system.shared.entries =
    system.signals.total + ∑ index ∈ Finset.range workers, system.pending index

theorem Watched.checked (watched : system.Watched regime resources workers)
    (sized : Sized resources workers)
    (probed : regime.criticalSection = Occupancy.criticalSection maxHold)
    (placed : system.Placed regime worker thread pair) (stage : thread.stage = .inside done)
    (scripted : (regime.criticalSection.script worker pair)[done]? = some act) :
    Occupancy.Checked system.shared (system.claims regime) worker pair done
      (act system.shared thread.generator) := by
  have coherent := watched.coherent
  rw [probed] at scripted
  have fits : worker.index < wordMax :=
    Nat.lt_of_lt_of_le (coherent.member_of_thread placed.found) sized.workers_fit
  have inside : ∀ {resource : Resource}, resource.index < system.resources →
      resource.index < system.shared.cells.length := by
    intro resource within
    rwa [watched.size, ← coherent.resources_eq]
  have alone : ∀ resource ∈ [pair.1, pair.2], ∀ other, other ≠ worker →
      resource ∉ system.claims regime other := by
    intro resource member other apart claimed
    obtain ⟨mine, own, same⟩ := placed.guard_inside stage member
    obtain ⟨guard, others, again⟩ := coherent.claimed claimed
    exact apart (coherent.orderly.guarded.owner_eq others own (again.trans same.symm))
  refine Occupancy.checked thread.generator scripted watched.reflects ?_ fits
    placed.routed.different (inside placed.routed.first_inside)
    (inside placed.routed.second_inside) fun other apart wanted member _ =>
      alone wanted (Occupancy.mem_of_claimed member) other apart
  rw [placed.claims_eq, stage]
  rfl

theorem Watched.yields (watched : system.Watched regime resources workers)
    (sized : Sized resources workers)
    (probed : regime.criticalSection = Occupancy.criticalSection maxHold) (worker : Worker) :
    system.Yields regime worker := by
  intro thread pair done act found route stage scripted
  obtain ⟨same, _, again, placed⟩ :=
    watched.coherent.placed_inside ⟨route, thread, done, found, stage⟩
  cases found.symm.trans placed.found
  exact (watched.checked sized probed placed stage scripted).clean

/-- Outside the section a step changes nothing that the check counts on, but that a
completed cycle is counted. -/
theorem Looped.quiet_or_inside
    (looped : system.Looped regime worker thread pair shop signals shared moved)
    (probed : regime.criticalSection = Occupancy.criticalSection maxHold) :
    (shared = system.shared ∧ moved.stage.claims pair = thread.stage.claims pair ∧
      signals.total + moved.stage.pending = system.signals.total + thread.stage.pending) ∨
    ∃ done act, thread.stage = .inside done ∧
      (regime.criticalSection.script worker pair)[done]? = some act ∧
      moved.stage = .inside (done + 1) ∧
      shared = (act system.shared thread.generator).shared ∧
      signals = system.signals.asked (act system.shared thread.generator).request := by
  cases looped with
  | inside done act stage scripted => exact .inr ⟨done, act, stage, scripted, rfl, rfl, rfl⟩
  | finish done stage ended =>
      rw [probed] at ended
      have behind : 6 ≤ done := List.getElem?_eq_none_iff.mp ended
      obtain ⟨more, rfl⟩ := Nat.exists_eq_add_of_le' behind
      rw [stage]
      exact .inl ⟨rfl, rfl, rfl⟩
  | check stage =>
      rw [stage]
      cases system.signals.stopped <;> exact .inl ⟨rfl, rfl, rfl⟩
  | recheck turn stage =>
      rw [stage]
      cases system.signals.stopped <;> cases turn <;> exact .inl ⟨rfl, rfl, rfl⟩
  | give turn onward guard stage =>
      rw [stage]
      cases turn <;> cases onward <;> exact .inl ⟨rfl, rfl, rfl⟩
  | start stage | think _ stage | take _ stage | gap _ stage | rest _ _ stage
  | count _ stage | total _ stage | leave stage =>
      rw [stage]
      exact .inl ⟨rfl, rfl, rfl⟩

theorem Watched.step (watched : system.Watched regime resources workers)
    (sized : Sized resources workers)
    (probed : regime.criticalSection = Occupancy.criticalSection maxHold)
    (stepped : system.after regime (.step worker) = some next) :
    next.Watched regime resources workers := by
  have coherent := watched.coherent
  have yields := watched.yields sized probed worker
  obtain ⟨thread, pair, placed, possible⟩ := coherent.stepped yields stepped
  have lands := possible.lands placed coherent.orderly
  obtain ⟨moved, landed⟩ := lands.placed
  have claims := lands.claims landed
  have pending := lands.pending placed landed (coherent.member stepped)
  have counted := watched.counted
  have quiet : next.shared = system.shared → moved.stage.claims pair = thread.stage.claims pair →
      next.signals.total + moved.stage.pending = system.signals.total + thread.stage.pending →
      next.Watched regime resources workers := by
    intro shared same tally
    rw [same, ← placed.claims_eq, Function.update_eq_self] at claims
    refine ⟨coherent.step yields stepped, ?_, ?_, ?_, ?_⟩ <;> rw [shared]
    · exact watched.size
    · rw [claims]
      exact watched.reflects
    · exact watched.clean
    · omega
  rcases possible.turned placed.found landed.found with ⟨_, rfl, signals, shared⟩ | ⟨_, looped⟩
  · exact quiet shared rfl (by rw [signals])
  · rcases looped.quiet_or_inside probed with
      ⟨same, kept, tally⟩ | ⟨done, act, stage, scripted, onward, shared, signals⟩
    · exact quiet same kept tally
    · have checked := watched.checked sized probed placed stage scripted
      have entries := checked.entries
      have total : next.signals.total = system.signals.total := by
        rw [signals, checked.silent]
        rfl
      rw [stage, onward] at pending
      refine ⟨coherent.step yields stepped, ?_, ?_, ?_, ?_⟩ <;> rw [shared]
      · exact checked.size.trans watched.size
      · rw [claims, onward]
        exact checked.reflects
      · exact checked.violations.trans watched.clean
      · cases done with
        | zero =>
            simp only [Stage.pending, if_true] at pending entries
            omega
        | succ done =>
            simp only [Stage.pending, Nat.succ_ne_zero, if_false] at pending entries
            omega

theorem Watched.after (watched : system.Watched regime resources workers)
    (sized : Sized resources workers)
    (probed : regime.criticalSection = Occupancy.criticalSection maxHold) {move : Move}
    (moved : system.after regime move = some next) : next.Watched regime resources workers := by
  have coherent := watched.coherent.goes_on (watched.yields sized probed) moved
  cases move with
  | step worker => exact watched.step sized probed moved
  | stop reason =>
      cases moved
      refine ⟨coherent, watched.size, watched.reflects, watched.clean, ?_⟩
      exact watched.counted.trans (congrArg (· + _) (Signals.total_halt _ reason).symm)
  | wait nanos =>
      cases moved
      exact ⟨coherent, watched.size, watched.reflects, watched.clean, watched.counted⟩

theorem watched_fresh (regime : Regime Occupancy) (sized : Sized resources workers) (seed : UInt64)
    (clock : Instant) :
    (fresh resources workers seed (Occupancy.ofSize resources) clock).Watched regime resources
      workers where
  coherent := coherent_fresh regime sized seed _ clock
  size := List.length_replicate
  reflects := by
    intro worker resource
    have unclaimed : (fresh resources workers seed (Occupancy.ofSize resources) clock).claims regime
        worker = [] := by
      unfold claims
      split
      · rename_i thread pair found _
        rw [stage_fresh found]
        rfl
      · rfl
    have blank : ∀ mark, (Occupancy.ofSize resources).cells[resource.index]? = some mark →
        mark = 0 :=
      fun mark found => List.eq_of_mem_replicate (List.mem_of_getElem? found)
    rw [unclaimed]
    exact ⟨fun member => absurd member List.not_mem_nil,
      fun found => absurd (blank _ found) (Nat.succ_ne_zero _)⟩
  clean := rfl
  counted := by
    refine (Finset.sum_eq_zero fun index _ => ?_).symm.trans (Nat.zero_add _).symm
    unfold pending
    split
    · rename_i thread found
      rw [stage_fresh found]
      rfl
    · rfl

/-- No two workers are in sections that share a resource, a section is run for what its
worker's record shows, the check finds nothing wrong, and when all workers have exited
it has seen as many sections as cycles were counted. -/
theorem mutual_exclusion {seed : UInt64} {clock : Instant} (sized : Sized resources workers)
    (probed : regime.criticalSection = Occupancy.criticalSection maxHold)
    (reached : Reachable regime
      (fresh resources workers seed (Occupancy.ofSize resources) clock) system) :
    (∀ left right leftPair rightPair, left ≠ right → system.Inside regime left leftPair →
        system.Inside regime right rightPair →
        [leftPair.1, leftPair.2].Disjoint [rightPair.1, rightPair.2]) ∧
      (∀ worker thread done, system.thread? worker = some thread → thread.stage = .inside done →
        ∃ pair record, system.Inside regime worker pair ∧
          system.step regime worker = some (system.sectionStep worker thread
            (regime.criticalSection.script worker pair) done) ∧
          system.shop.board.record? worker = some record ∧ record.held = .two pair.1 pair.2) ∧
      system.shared.violations = 0 ∧
      ((∀ worker, worker.index < workers → system.Exited worker) →
        system.shared.entries = system.signals.total) := by
  obtain ⟨moves, found⟩ := reached
  have watched := run_invariant (Watched regime resources workers)
    (fun _ _ _ watched moved => watched.after sized probed moved) found
    (watched_fresh regime sized seed clock)
  have coherent := watched.coherent
  refine ⟨fun left right leftPair rightPair apart leftInside rightInside =>
    coherent.exclusive leftInside rightInside apart, ?_, watched.clean, fun exited => ?_⟩
  · intro worker thread done found stage
    obtain ⟨same, pair, placed⟩ := coherent.placed worker (coherent.member_of_thread found)
    cases found.symm.trans placed.found
    obtain ⟨record, stored, held⟩ := placed.held_inside stage
    exact ⟨pair, record, ⟨placed.route, thread, done, found, stage⟩, placed.step_inside stage,
      stored, held⟩
  · -- Nobody who has exited has a section left to be counted.
    have none : ∀ index ∈ Finset.range workers, system.pending index = 0 := by
      intro index member
      obtain ⟨thread, found, stage⟩ := Option.map_eq_some_iff.mp
        (exited ⟨index⟩ (Finset.mem_range.mp member))
      simp only [pending, found, stage, Stage.pending]
    rw [watched.counted, Finset.sum_eq_zero none, Nat.add_zero]

/-- One worker is in its section, with both cells claimed, when a stop is requested; it
completes its cycle, the other does not begin one. -/
theorem mutual_exclusion_through_a_cycle :
    ∃ system final, Reachable (.watchful .unordered .paired)
        (fresh 2 2 7 (Occupancy.ofSize 2) .origin) system ∧
      system.Inside (.watchful .unordered .paired) ⟨0⟩ (⟨0⟩, ⟨1⟩) ∧
      system.shared.cells = [1, 1] ∧ system.shared.violations = 0 ∧
      Reachable (.watchful .unordered .paired) system final ∧
      final.signals.total = 1 ∧ final.shared.entries = 1 ∧ final.shared.violations = 0 := by
  have moved : ((fresh 2 2 7 (Occupancy.ofSize 2) .origin).run (.watchful .unordered .paired)
      (List.replicate 17 (.step ⟨0⟩))).bind (fun system =>
        (system.run (.watchful .unordered .paired) (.stop .operator ::
          List.replicate 14 (.step ⟨0⟩) ++ List.replicate 3 (.step ⟨1⟩))).map fun final =>
            ((system.thread? ⟨0⟩).map (·.stage), system.resources, system.shared.cells,
              final.signals.total, decide (final.Exited ⟨0⟩), decide (final.Exited ⟨1⟩))) =
      some (some (.inside 3), 2, [1, 1], 1, true, true) := by
    decide +kernel
  obtain ⟨system, found, onward⟩ := Option.bind_eq_some_iff.mp moved
  obtain ⟨final, run, seen⟩ := Option.map_eq_some_iff.mp onward
  simp only [Prod.mk.injEq, decide_eq_true_eq] at seen
  obtain ⟨stage, size, cells, total, first, second⟩ := seen
  obtain ⟨thread, known, stage⟩ := Option.map_eq_some_iff.mp stage
  have reached : Reachable (.watchful .unordered .paired)
      (fresh 2 2 7 (Occupancy.ofSize 2) .origin) system := ⟨_, found⟩
  have sized : Sized 2 2 := ⟨by decide, by decide, by decide⟩
  obtain ⟨_, _, clean, _⟩ := mutual_exclusion sized rfl reached
  obtain ⟨_, _, still, tally⟩ := mutual_exclusion sized rfl (reached.trans ⟨_, run⟩)
  refine ⟨system, final, reached, ⟨by rw [size]; rfl, thread, 3, known, stage⟩, cells, clean,
    ⟨_, run⟩, total, (tally ?_).trans total, still⟩
  rintro ⟨_ | _ | index⟩ member
  · exact first
  · exact second
  · exact absurd member (Nat.not_lt_of_le (Nat.le_add_left 2 index))

end System

end Contention

import Contention.Proofs.Worker.Waiting

namespace Contention.System

/-! Critical sections that do not come to their end.  A worker whose section ends
suddenly drops its guards and is gone, and its record stays as it was; the others do
not notice anything but that resources become free. -/

open Workshop (Frame)

variable {σ : Type} {regime : Regime σ} {resources workers : Nat} {system next : System σ}
  {worker other : Worker} {thread moved : Thread} {pair : Resource × Resource}

/-- A worker that has come to a sudden end, with or without guards that it has still
to drop. -/
structure Fallen (system : System σ) (worker : Worker) : Prop where
  thread : ∃ thread, system.thread? worker = some thread ∧ thread.stage.isCalm = false
  deserted : system.shop.Deserted worker

/-- As in `Coherent`, but some workers may have fallen. -/
structure Steady (regime : Regime σ) (resources workers : Nat) (system : System σ) : Prop
    extends Staffed resources workers system where
  stands : ∀ worker, worker.index < workers →
    (∃ thread pair, system.Placed regime worker thread pair) ∨ system.Fallen worker

theorem Coherent.steady (coherent : system.Coherent regime resources workers) :
    system.Steady regime resources workers :=
  ⟨coherent.toStaffed, fun worker member => .inl (coherent.placed worker member)⟩

theorem Fallen.framed (fallen : system.Fallen other) (different : other ≠ worker)
    (frame : Frame system.shop next.shop worker)
    (threads : next.thread? other = system.thread? other) : next.Fallen other where
  thread := by
    rw [threads]
    exact fallen.thread
  deserted := fallen.deserted.framed frame different

theorem Steady.reliable (steady : system.Steady regime resources workers) :
    system.shop.Reliable where
  orderly := steady.orderly
  pool := steady.pool
  slots := by
    intro worker onBoard
    rw [Workshop.OnBoard, steady.slots] at onBoard
    rcases steady.stands worker onBoard with ⟨_, _, placed⟩ | fallen
    · exact .inl placed.truthful
    · exact .inr fallen.deserted

theorem Placed.falls (placed : system.Placed regime worker thread pair)
    (stops : ¬ system.Yields regime worker) :
    system.shop.activity worker = .idle ∧ (∃ done, thread.stage = .inside done) ∧
      ∃ request shared moved, (∃ fault, moved.stage = .unwind fault) ∧
        system.after regime (.step worker) =
          some ({ system with signals := system.signals.asked request, shared }.setThread worker
            moved) := by
  simp only [Yields, not_forall] at stops
  obtain ⟨same, samePair, done, act, found, route, stage, scripted, fault⟩ := stops
  cases placed.found.symm.trans found
  cases placed.route.symm.trans route
  have idle := placed.idle (by rw [stage]; rfl) (by rw [stage]; rfl)
  obtain ⟨chosen, stepped⟩ := placed.step_idle idle
  obtain ⟨reason, ended⟩ := Option.ne_none_iff_exists'.mp fault
  refine ⟨idle, ⟨done, stage⟩, (act system.shared thread.generator).request, ?_⟩
  rw [after, stepped]
  simp only [loopStep, stage, sectionStep, scripted, ended]
  cases (act system.shared thread.generator).request with
  | none => exact ⟨_, _, ⟨reason, rfl⟩, rfl⟩
  | some asked => exact ⟨_, _, ⟨reason, rfl⟩, rfl⟩

theorem Fallen.unwinds (fallen : system.Fallen worker)
    (stepped : system.after regime (.step worker) = some next) :
    (∃ moved : Thread, moved.stage.isCalm = false ∧ next = system.setThread worker moved ∧
      (system.shop.guardsOf worker = [] ∨
        ∃ fault, regime.pairing.pairFor worker system.resources = .error fault)) ∨
      ∃ guard ∈ system.shop.guardsOf worker,
        next = { system with shop := system.shop.free guard } := by
  obtain ⟨thread, found, fell⟩ := fallen.thread
  obtain ⟨_, taken, rfl⟩ := Option.map_eq_some_iff.mp stepped
  obtain ⟨same, again, taken⟩ := stepped_of_step taken
  cases found.symm.trans again
  cases taken with
  | slot advance busy =>
      rw [Workshop.isIdle_iff.mpr fallen.deserted.idle] at busy
      contradiction
  | astray fault _ paired => exact .inl ⟨_, rfl, rfl, .inr ⟨fault, paired⟩⟩
  | loop chosen next _ _ looped =>
      cases looped with
      | drop fault guard _ last => exact .inr ⟨guard, List.mem_of_getLast? last, rfl⟩
      | fail fault _ dropped =>
          exact .inl ⟨_, rfl, rfl, .inl (List.getLast?_eq_none_iff.mp dropped)⟩
      | start stage | check stage | think stage | take _ stage | recheck _ stage | gap stage
      | inside _ stage | count stage | total _ stage | give _ _ _ stage | rest _ stage
      | leave stage =>
          rw [stage] at fell
          contradiction

theorem Steady.placed_of_calm (steady : system.Steady regime resources workers)
    (found : system.thread? worker = some thread) (calm : thread.stage.isCalm = true) :
    ∃ pair, system.Placed regime worker thread pair := by
  rcases steady.stands worker (steady.member_of_thread found) with ⟨same, pair, placed⟩ | fallen
  · cases found.symm.trans placed.found
    exact ⟨pair, placed⟩
  · obtain ⟨same, again, fell⟩ := fallen.thread
    cases found.symm.trans again
    rw [calm] at fell
    contradiction

inductive Turned (regime : Regime σ) (system next : System σ) (worker : Worker)
    (thread moved : Thread) : Prop
  | slot (pair : Resource × Resource) (placed : system.Placed regime worker thread pair)
      (advanced : system.shop.Advanced worker next.shop) (same : moved = thread)
      (signals : next.signals = system.signals)
  | loop (pair : Resource × Resource) (placed : system.Placed regime worker thread pair)
      (idle : system.shop.activity worker = .idle)
      (looped : system.Looped regime worker thread pair next.shop next.signals next.shared moved)
  /-- The worker falls, or has fallen and is about to drop its guards. -/
  | down (request : Option EndReason)
      (before : thread.stage.isCalm = false ∨ ∃ done, thread.stage = .inside done)
      (fell : moved.stage.isCalm = false) (idle : system.shop.activity worker = .idle)
      (board : next.shop.board = system.shop.board)
      (signals : next.signals = system.signals.asked request)

structure Passes (regime : Regime σ) (system next : System σ) (worker : Worker) : Prop where
  orderly : next.shop.Orderly
  frame : Frame system.shop next.shop worker
  count : next.threads.length = system.threads.length
  threads : ∀ other, other ≠ worker → next.thread? other = system.thread? other
  stands : (∃ thread pair, next.Placed regime worker thread pair) ∨ next.Fallen worker
  turned : ∃ thread moved, system.thread? worker = some thread ∧
    next.thread? worker = some moved ∧ Turned regime system next worker thread moved

theorem Placed.passes (placed : system.Placed regime worker thread pair)
    (steady : system.Steady regime resources workers)
    (stepped : system.after regime (.step worker) = some next) :
    Passes regime system next worker := by
  by_cases yields : system.Yields regime worker
  · have possible := placed.next steady.orderly yields
    rw [stepped] at possible
    have lands := possible.lands placed steady.orderly
    obtain ⟨moved, landed⟩ := lands.placed
    refine ⟨lands.sound.orderly, lands.sound.frame, lands.count, lands.threads,
      .inl ⟨moved, pair, landed⟩, thread, moved, placed.found, landed.found, ?_⟩
    rcases possible.turned placed.found landed.found with
      ⟨advanced, same, signals, _⟩ | ⟨idle, looped⟩
    · exact .slot pair placed advanced same signals
    · exact .loop pair placed idle looped
  · obtain ⟨idle, inside, request, shared, moved, ⟨fault, unwinding⟩, ended⟩ := placed.falls yields
    have fell : moved.stage.isCalm = false := by rw [unwinding]; rfl
    cases stepped.symm.trans ended
    exact ⟨steady.orderly, .refl _ worker, List.length_set,
      fun other apart => (thread?_turned placed.found).trans (if_neg apart),
      .inr ⟨⟨moved, (thread?_turned placed.found).trans (if_pos rfl), fell⟩,
        placed.truthful.deserted steady.orderly steady.pool idle⟩,
      thread, moved, placed.found, (thread?_turned placed.found).trans (if_pos rfl),
      .down request (.inr inside) fell idle rfl rfl⟩

theorem Fallen.passes (fallen : system.Fallen worker)
    (steady : system.Steady regime resources workers)
    (stepped : system.after regime (.step worker) = some next) :
    Passes regime system next worker := by
  obtain ⟨thread, found, before⟩ := fallen.thread
  have idle := fallen.deserted.idle
  rcases fallen.unwinds stepped with ⟨moved, fell, rfl, _⟩ | ⟨guard, own, rfl⟩
  · exact ⟨steady.orderly, .refl _ worker, List.length_set,
      fun other apart => (thread?_turned found).trans (if_neg apart),
      .inr ⟨⟨moved, (thread?_turned found).trans (if_pos rfl), fell⟩, fallen.deserted⟩,
      thread, moved, found, (thread?_turned found).trans (if_pos rfl),
      .down none (.inl before) fell idle rfl rfl⟩
  · exact ⟨steady.orderly.free own, steady.orderly.frame_free own, rfl, fun _ _ => rfl,
      .inr ⟨fallen.thread, fallen.deserted.free steady.orderly own⟩,
      thread, thread, found, found, .down none (.inl before) before idle rfl rfl⟩

theorem Steady.passes (steady : system.Steady regime resources workers)
    (stepped : system.after regime (.step worker) = some next) :
    Passes regime system next worker := by
  rcases steady.stands worker (steady.member stepped) with ⟨_, _, placed⟩ | fallen
  · exact placed.passes steady stepped
  · exact fallen.passes steady stepped

theorem Steady.step (steady : system.Steady regime resources workers)
    (stepped : system.after regime (.step worker) = some next) :
    next.Steady regime resources workers := by
  have passes := steady.passes stepped
  have frame := passes.frame
  refine ⟨steady.framed passes.orderly frame passes.count, fun other member => ?_⟩
  by_cases same : other = worker
  · exact same ▸ passes.stands
  · have threads := passes.threads other same
    rcases steady.stands other member with ⟨thread, pair, placed⟩ | fallen
    · exact .inl ⟨thread, pair, placed.framed same frame threads⟩
    · exact .inr (fallen.framed same frame threads)

theorem Steady.of_same (steady : system.Steady regime resources workers)
    (shop : next.shop = system.shop) (threads : next.threads = system.threads) :
    next.Steady regime resources workers := by
  refine ⟨steady.toStaffed.of_same shop threads, fun worker member => ?_⟩
  rcases steady.stands worker member with ⟨thread, pair, placed⟩ | ⟨fell, deserted⟩
  · exact .inl ⟨thread, pair, placed.of_same shop threads⟩
  · refine .inr ⟨?_, shop ▸ deserted⟩
    rwa [thread?, threads]

theorem Steady.after (steady : system.Steady regime resources workers) {move : Move}
    (moved : system.after regime move = some next) : next.Steady regime resources workers := by
  rcases step_or_same moved with ⟨worker, rfl⟩ | ⟨shop, threads⟩
  · exact steady.step moved
  · exact steady.of_same shop threads

theorem Steady.foreign (steady : system.Steady regime resources workers) {move : Move}
    (foreign : move.isBy worker = false) (moved : system.after regime move = some next) :
    next.thread? worker = system.thread? worker ∧
      next.shop.activity worker = system.shop.activity worker ∧
      next.shop.board.record? worker = system.shop.board.record? worker := by
  rcases step_or_same moved with ⟨mover, rfl⟩ | ⟨shop, threads⟩
  · have passes := steady.passes moved
    have apart : worker ≠ mover := fun same => of_decide_eq_false foreign same.symm
    exact ⟨passes.threads worker apart, passes.frame.activity worker apart,
      passes.frame.record? worker apart⟩
  · rw [thread?, thread?, shop, threads]
    exact ⟨rfl, rfl, rfl⟩

theorem reachable_steady {seed : UInt64} {shared : σ} {clock : Instant}
    (sized : Sized resources workers)
    (reached : Reachable regime (fresh resources workers seed shared clock) system) :
    system.Steady regime resources workers := by
  obtain ⟨moves, found⟩ := reached
  exact run_invariant (Steady regime resources workers)
    (fun _ _ _ steady moved => steady.after moved) found
    (coherent_fresh regime sized seed shared clock).steady

end Contention.System

import Contention.Proofs.Worker.Steps
import Contention.Proofs.Workshop.Operations

namespace Contention

/-! In every state that a run can reach each worker is where its loop says, whatever
the order of the steps and whenever a stop is requested.  This holds in both modes. -/

open Workshop (Leads Sound)

variable {σ : Type}

theorem Stage.allows_leads {stage : Stage} {before after : Activity} (leads : Leads before after)
    (allowed : stage.allows before = true) : stage.allows after = true := by
  cases leads with
  | lock => exact allowed
  | note => exact allowed
  | clear => exact allowed
  | settle => cases stage <;> first | rfl | contradiction
  | unlock => cases stage <;> first | rfl | contradiction

theorem Stage.owned_recheck (pair : Resource × Resource) (turn : Turn) :
    (Stage.recheck turn).owned pair = (Stage.take turn).owned pair ++ [turn.of pair] := by
  cases turn <;> rfl

namespace System

variable {regime : Regime σ} {resources workers : Nat} {system next : System σ}
  {worker other : Worker} {thread moved : Thread} {pair : Resource × Resource} {shop : Workshop}
  {signals : Signals} {shared : σ}

/-- A step of one slot after which it holds, or will hold, what a stage of its
worker asks for. -/
structure Fitting (before : Workshop) (worker : Worker) (pair : Resource × Resource)
    (after : Workshop) (stage : Stage) : Prop where
  sound : Sound before after worker
  due : after.due worker = (stage.owned pair).map site
  allowed : stage.allows (after.activity worker) = true

theorem owned_backward (different : pair.1 ≠ pair.2) (turn : Turn) (onward : Onward) :
    (((Stage.give turn onward).owned pair).map site).filter
      (fun held => decide (held ≠ site (turn.of pair))) =
        ((turn.backward onward).owned pair).map site := by
  cases turn <;> cases onward <;> simp [Stage.owned, Turn.backward, Turn.of, site, different]

theorem Placed.quiet (placed : system.Placed regime worker thread pair)
    (orderly : system.shop.Orderly) (idle : system.shop.activity worker = .idle) {stage : Stage}
    (same : stage.owned pair = thread.stage.owned pair) (calm : stage.isCalm = true) :
    Fitting system.shop worker pair system.shop stage := by
  refine ⟨.refl orderly placed.truthful, ?_, ?_⟩
  · rw [same, placed.due]
  · rw [idle]
    exact calm

theorem Placed.asks (placed : system.Placed regime worker thread pair)
    (orderly : system.shop.Orderly) (idle : system.shop.activity worker = .idle) {turn : Turn}
    (stage : thread.stage = .take turn) :
    (system.shop.beginAcquire worker (site (turn.of pair))).shop =
        (system.shop.rewrite worker (·.publish (turn.of pair))).setActivity worker
          (.locking (site (turn.of pair))) ∧
      (system.shop.beginAcquire worker (site (turn.of pair))).shop.activity worker =
        .locking (site (turn.of pair)) := by
  obtain ⟨_, begun, _⟩ := Workshop.beginAcquire_sound orderly placed.truthful idle
    (placed.few idle stage) (placed.contains turn)
  refine ⟨begun, ?_⟩
  rw [begun, Workshop.activity_after (Workshop.frame_rewrite system.shop worker _)
    (placed.truthful.onBoard orderly)]

theorem Placed.take (placed : system.Placed regime worker thread pair)
    (orderly : system.shop.Orderly) (idle : system.shop.activity worker = .idle) {turn : Turn}
    (stage : thread.stage = .take turn) :
    Fitting system.shop worker pair (system.shop.beginAcquire worker (site (turn.of pair))).shop
      (.recheck turn) := by
  obtain ⟨_, _, sound⟩ := Workshop.beginAcquire_sound orderly placed.truthful idle
    (placed.few idle stage) (placed.contains turn)
  obtain ⟨begun, locking⟩ := placed.asks orderly idle stage
  have kept : (system.shop.beginAcquire worker (site (turn.of pair))).shop.guardsOf worker =
      system.shop.guardsOf worker := by
    rw [begun]
    rfl
  refine ⟨sound, ?_, ?_⟩
  · rw [Workshop.due_locking locking, kept, placed.sites idle, stage, Stage.owned_recheck,
      List.map_append]
    rfl
  · rw [locking]
    rfl

theorem Placed.give (placed : system.Placed regime worker thread pair)
    (orderly : system.shop.Orderly) (idle : system.shop.activity worker = .idle) {turn : Turn}
    {onward : Onward} {guard : Guard} (stage : thread.stage = .give turn onward)
    (own : guard ∈ system.shop.guardsOf worker) (wanted : guard.site = site (turn.of pair)) :
    Fitting system.shop worker pair (system.shop.beginRelease worker guard).shop
      (turn.backward onward) := by
  have onBoard := placed.truthful.onBoard orderly
  obtain ⟨_, sound, begun⟩ := Workshop.beginRelease_sound orderly placed.truthful idle own
  have left := Workshop.sites_of_free orderly.guarded own
  rw [placed.sites idle, stage, wanted, owned_backward placed.routed.different] at left
  have given : (turn.backward onward).hasGiven = true := by
    cases turn <;> cases onward <;> rfl
  rcases begun with begun | begun
  · have unlocking : (system.shop.beginRelease worker guard).shop.activity worker =
        .unlocking guard := by
      rw [begun]
      exact Workshop.activity_after (Workshop.frame_rewrite system.shop worker _) onBoard
    refine ⟨sound, ?_, by rw [unlocking]; exact given⟩
    rw [Workshop.due, unlocking, begun]
    exact left
  · have shifting : (system.shop.beginRelease worker guard).shop.activity worker =
        .shifting guard := by
      rw [begun]
      exact Workshop.activity_after (Workshop.frame_rewrite system.shop worker _) onBoard
    refine ⟨sound, ?_, by rw [shifting]; exact given⟩
    rw [Workshop.due, shifting, begun]
    exact left

theorem Looped.fitting (looped : system.Looped regime worker thread pair shop signals shared moved)
    (placed : system.Placed regime worker thread pair) (orderly : system.shop.Orderly)
    (idle : system.shop.activity worker = .idle) :
    Fitting system.shop worker pair shop moved.stage := by
  cases looped with
  | start stage => exact placed.quiet orderly idle (by rw [stage]; rfl) rfl
  | check stage =>
      cases system.signals.stopped <;> exact placed.quiet orderly idle (by rw [stage]; rfl) rfl
  | think generator stage => exact placed.quiet orderly idle (by rw [stage]; rfl) rfl
  | take turn stage => exact placed.take orderly idle stage
  | recheck turn stage =>
      cases system.signals.stopped <;> cases turn <;>
        exact placed.quiet orderly idle (by rw [stage]; rfl) rfl
  | gap generator stage => exact placed.quiet orderly idle (by rw [stage]; rfl) rfl
  | inside done act stage => exact placed.quiet orderly idle (by rw [stage]; rfl) rfl
  | finish done stage => exact placed.quiet orderly idle (by rw [stage]; rfl) rfl
  | count record stage found =>
      have stays : Fitting system.shop worker pair system.shop (.total (record.completed + 1)) :=
        placed.quiet orderly idle (by rw [stage]; rfl) rfl
      exact ⟨Workshop.complete_sound orderly placed.truthful system.clock, stays.due,
        stays.allowed⟩
  | total count stage => exact placed.quiet orderly idle (by rw [stage]; rfl) rfl
  | give turn onward guard stage own wanted => exact placed.give orderly idle stage own wanted
  | rest count generator stage => exact placed.quiet orderly idle (by rw [stage]; rfl) rfl
  | leave stage => exact placed.quiet orderly idle (by rw [stage]; rfl) rfl

theorem Placed.advance (placed : system.Placed regime worker thread pair)
    (orderly : system.shop.Orderly) (advanced : system.shop.Advanced worker shop) :
    Fitting system.shop worker pair shop thread.stage where
  sound := advanced.sound orderly placed.truthful
  due := by rw [advanced.due, placed.due]
  allowed := Stage.allows_leads advanced.leads placed.allowed

structure Staffed (resources workers : Nat) (system : System σ) : Prop where
  orderly : system.shop.Orderly
  slots : system.shop.activities.length = workers
  threads : system.threads.length = workers
  room : ∀ pool, system.shop.room pool = if pool = 0 then resources else 0

structure Coherent (regime : Regime σ) (resources workers : Nat) (system : System σ) : Prop
    extends Staffed resources workers system where
  placed : ∀ worker, worker.index < workers → ∃ thread pair,
    system.Placed regime worker thread pair

theorem Staffed.resources_eq (staffed : system.Staffed resources workers) :
    system.resources = resources := by
  rw [resources_eq_room, staffed.room, if_pos rfl]

theorem Staffed.onBoard_iff (staffed : system.Staffed resources workers) :
    system.shop.OnBoard worker ↔ worker.index < workers := by
  rw [Workshop.OnBoard, staffed.slots]

theorem Staffed.member_of_thread (staffed : system.Staffed resources workers)
    (found : system.thread? worker = some thread) : worker.index < workers :=
  staffed.threads ▸ (List.getElem?_eq_some_iff.mp found).1

theorem Staffed.framed (staffed : system.Staffed resources workers) (orderly : next.shop.Orderly)
    (frame : Workshop.Frame system.shop next.shop worker)
    (count : next.threads.length = system.threads.length) : next.Staffed resources workers where
  orderly := orderly
  slots := frame.slots.trans staffed.slots
  threads := count.trans staffed.threads
  room pool := (frame.room pool).trans (staffed.room pool)

theorem Staffed.of_same (staffed : system.Staffed resources workers)
    (shop : next.shop = system.shop) (threads : next.threads = system.threads) :
    next.Staffed resources workers where
  orderly := shop ▸ staffed.orderly
  slots := shop ▸ staffed.slots
  threads := threads ▸ staffed.threads
  room := shop ▸ staffed.room

theorem coherent_fresh (regime : Regime σ) (sized : Sized resources workers) (seed : UInt64)
    (shared : σ) (clock : Instant) :
    (fresh resources workers seed shared clock).Coherent regime resources workers := by
  have settled := Workshop.settled_fresh workers [resources] clock
    (by simpa using sized.resources_fit)
  have room := Workshop.room_fresh workers resources clock
  have size : (fresh resources workers seed shared clock).resources = resources :=
    (resources_eq_room _).trans (room 0)
  refine ⟨⟨settled.orderly, by simp [fresh, Workshop.fresh], by simp [fresh], room⟩, ?_⟩
  intro worker member
  obtain ⟨pair, route, routed⟩ := route_exists regime.mode regime.pairing sized member
  have idle : (fresh resources workers seed shared clock).shop.activity worker = .idle :=
    Workshop.activity_fresh workers [resources] clock worker
  have onBoard : (fresh resources workers seed shared clock).shop.OnBoard worker := by
    simpa [fresh, Workshop.fresh, Workshop.OnBoard] using member
  refine ⟨_, pair, (thread?_fresh ..).trans (if_pos member), ?_, ?_, ?_, ?_, ?_⟩
  · rw [size]
    exact route
  · rw [size]
    exact routed
  · exact settled.truthful worker onBoard
  · rw [Workshop.due_idle idle]
    rfl
  · rw [idle]
    rfl

theorem stage_fresh {seed : UInt64} {shared : σ} {clock : Instant}
    (found : (fresh resources workers seed shared clock).thread? worker = some thread) :
    thread.stage = .start := by
  obtain ⟨index, _, rfl⟩ := List.mem_map.mp (List.mem_of_getElem? found)
  rfl

theorem resources_framed (frame : Workshop.Frame system.shop next.shop worker) :
    next.resources = system.resources := by
  rw [resources_eq_room, resources_eq_room, frame.room]

theorem thread?_turned (found : system.thread? worker = some thread) :
    ({ system with shop, signals, shared }.setThread worker moved).thread? other =
      if other = worker then some moved else system.thread? other := by
  have known : (({ system with shop, signals, shared } : System σ).thread? worker).isSome :=
    Option.isSome_of_eq_some found
  exact thread?_setThread known

theorem Placed.framed (placed : system.Placed regime other thread pair) (different : other ≠ worker)
    (frame : Workshop.Frame system.shop next.shop worker)
    (threads : next.thread? other = system.thread? other) :
    next.Placed regime other thread pair := by
  have size := resources_framed frame
  refine ⟨threads.trans placed.found, size ▸ placed.route, size ▸ placed.routed,
    placed.truthful.framed frame different, ?_, ?_⟩
  · exact (frame.due different).trans placed.due
  · exact (congrArg thread.stage.allows (frame.activity other different)).trans placed.allowed

theorem Placed.fitted (placed : system.Placed regime worker thread pair)
    (fitting : Fitting system.shop worker pair shop moved.stage) :
    ({ system with shop, signals, shared }.setThread worker moved).Placed regime worker moved
      pair := by
  have size : ({ system with shop, signals, shared }.setThread worker moved).resources =
      system.resources := resources_framed fitting.sound.frame
  exact ⟨(thread?_turned placed.found).trans (if_pos rfl), size ▸ placed.route,
    size ▸ placed.routed, fitting.sound.truthful, fitting.due, fitting.allowed⟩

/-- What a step of a worker that is where its loop says leaves: the worker is again where
it says, and nothing has happened to the others. -/
structure Lands (regime : Regime σ) (system next : System σ) (worker : Worker)
    (pair : Resource × Resource) : Prop where
  sound : Sound system.shop next.shop worker
  count : next.threads.length = system.threads.length
  threads : ∀ other, other ≠ worker → next.thread? other = system.thread? other
  placed : ∃ moved, next.Placed regime worker moved pair

theorem Next.lands (possible : Next regime system worker thread pair (some next))
    (placed : system.Placed regime worker thread pair) (orderly : system.shop.Orderly) :
    Lands regime system next worker pair := by
  cases possible with
  | slot shop advanced =>
      have fitting := placed.advance orderly advanced
      have stays : ({ system with shop }.setThread worker thread) = { system with shop } :=
        setThread_self placed.found
      exact ⟨fitting.sound, rfl, fun _ _ => rfl, thread, stays ▸ placed.fitted fitting⟩
  | loop shop signals shared moved idle looped =>
      have fitting := looped.fitting placed orderly idle
      exact ⟨fitting.sound, List.length_set,
        fun other different => (thread?_turned placed.found).trans (if_neg different), moved,
        placed.fitted fitting⟩

theorem Next.turned (possible : Next regime system worker thread pair (some next))
    (found : system.thread? worker = some thread) (landed : next.thread? worker = some moved) :
    (system.shop.Advanced worker next.shop ∧ moved = thread ∧ next.signals = system.signals ∧
      next.shared = system.shared) ∨
    (system.shop.activity worker = .idle ∧
      system.Looped regime worker thread pair next.shop next.signals next.shared moved) := by
  cases possible with
  | slot shop advanced =>
      cases found.symm.trans landed
      exact .inl ⟨advanced, rfl, rfl, rfl⟩
  | loop shop signals shared turned idle looped =>
      rw [thread?_turned found, if_pos rfl] at landed
      cases landed
      exact .inr ⟨idle, looped⟩

theorem Staffed.member (staffed : system.Staffed resources workers)
    (moved : system.after regime (.step worker) = some next) : worker.index < workers := by
  obtain ⟨_, taken, _⟩ := Option.map_eq_some_iff.mp moved
  obtain ⟨_, found, _⟩ := stepped_of_step taken
  exact staffed.member_of_thread found

theorem Coherent.stepped (coherent : system.Coherent regime resources workers)
    (yields : system.Yields regime worker)
    (moved : system.after regime (.step worker) = some next) :
    ∃ thread pair, system.Placed regime worker thread pair ∧
      Next regime system worker thread pair (some next) := by
  obtain ⟨thread, pair, placed⟩ := coherent.placed worker (coherent.member moved)
  exact ⟨thread, pair, placed, moved ▸ placed.next coherent.orderly yields⟩

theorem Coherent.step (coherent : system.Coherent regime resources workers)
    (yields : system.Yields regime worker)
    (moved : system.after regime (.step worker) = some next) :
    next.Coherent regime resources workers := by
  obtain ⟨thread, pair, placed, possible⟩ := coherent.stepped yields moved
  obtain ⟨sound, count, threads, turned, landed⟩ := possible.lands placed coherent.orderly
  refine ⟨coherent.framed sound.orderly sound.frame count, fun other member => ?_⟩
  by_cases same : other = worker
  · exact same ▸ ⟨turned, pair, landed⟩
  · obtain ⟨others, otherPair, old⟩ := coherent.placed other member
    exact ⟨others, otherPair, old.framed same sound.frame (threads other same)⟩

theorem Placed.of_same (placed : system.Placed regime worker thread pair)
    (shop : next.shop = system.shop) (threads : next.threads = system.threads) :
    next.Placed regime worker thread pair := by
  obtain ⟨_, _, _, _, _⟩ := next
  cases shop
  cases threads
  exact ⟨placed.found, placed.route, placed.routed, placed.truthful, placed.due, placed.allowed⟩

theorem Coherent.goes_on (coherent : system.Coherent regime resources workers)
    (yields : ∀ worker, system.Yields regime worker) {move : Move}
    (moved : system.after regime move = some next) : next.Coherent regime resources workers := by
  rcases step_or_same moved with ⟨worker, rfl⟩ | ⟨shop, threads⟩
  · exact coherent.step (yields worker) moved
  · refine ⟨coherent.of_same shop threads, fun worker member => ?_⟩
    obtain ⟨thread, pair, placed⟩ := coherent.placed worker member
    exact ⟨thread, pair, placed.of_same shop threads⟩

theorem Coherent.after (coherent : system.Coherent regime resources workers)
    (returns : regime.Returns) {move : Move} (moved : system.after regime move = some next) :
    next.Coherent regime resources workers :=
  coherent.goes_on (yields_of_returns returns system) moved

theorem reachable_coherent_of_yields {seed : UInt64} {shared : σ} {clock : Instant}
    (yields : ∀ system, Reachable regime (fresh resources workers seed shared clock) system →
      ∀ worker, system.Yields regime worker)
    (sized : Sized resources workers)
    (reached : Reachable regime (fresh resources workers seed shared clock) system) :
    system.Coherent regime resources workers :=
  reached.induct (Coherent regime resources workers)
    (fun _ _ _ before coherent moved => coherent.goes_on (yields _ before) moved)
    (coherent_fresh regime sized seed shared clock)

theorem reachable_coherent {seed : UInt64} {shared : σ} {clock : Instant}
    (returns : regime.Returns) (sized : Sized resources workers)
    (reached : Reachable regime (fresh resources workers seed shared clock) system) :
    system.Coherent regime resources workers :=
  reachable_coherent_of_yields (fun system _ => yields_of_returns returns system) sized reached

end System

end Contention

import Contention.Proofs.Workshop.Mending
import Contention.Proofs.Workshop.Operations
import Contention.Signals.Basic

namespace Contention

/-! Workers over one pool that acquire and release in whatever order they like, each
through its own slot.  They may ask for resources that there are not or for a third
one, which fails, and they may come to an end at any time but while they are blocked;
what they still hold is then dropped, and their records stay as they were. -/

open Contention.System (site)

structure Crew where
  shop : Workshop
  signals : Signals
  gone : Worker → Prop

namespace Crew

def fresh (resources workers : Nat) (epoch : Instant) : Crew where
  shop := .fresh workers [resources] epoch
  signals := {}
  gone _ := False

/-- A worker that is still there and is not in the middle of an operation. -/
structure Ready (crew : Crew) (worker : Worker) : Prop where
  onBoard : crew.shop.OnBoard worker
  present : ¬ crew.gone worker
  idle : crew.shop.isIdle worker = true

inductive Act (crew : Crew) : Crew → Prop
  | acquire (worker : Worker) (resource : Resource) (ready : crew.Ready worker) :
      Act crew { crew with shop := (crew.shop.beginAcquire worker (site resource)).shop }
  | release (worker : Worker) (guard : Guard) (ready : crew.Ready worker)
      (own : guard ∈ crew.shop.guardsOf worker) :
      Act crew { crew with shop := (crew.shop.beginRelease worker guard).shop }
  | advance (worker : Worker) (step : Workshop.Step)
      (taken : crew.shop.advance worker = some step) : Act crew { crew with shop := step.shop }
  | complete (worker : Worker) (now : Instant) (ready : crew.Ready worker) :
      Act crew { crew with shop := crew.shop.complete worker now }
  | record (worker : Worker) (ready : crew.Ready worker) :
      Act crew { crew with signals := crew.signals.record }
  | leave (worker : Worker) (ready : crew.Ready worker) :
      Act crew { crew with gone := fun other => other = worker ∨ crew.gone other }
  | drop (worker : Worker) (guard : Guard) (left : crew.gone worker)
      (own : guard ∈ crew.shop.guardsOf worker) :
      Act crew { crew with shop := crew.shop.free guard }
  | stop (reason : EndReason) : Act crew { crew with signals := (crew.signals.halt reason).signals }

variable {crew next : Crew} {size : Nat} {worker mover : Worker}

/-- Mended, the workshop of a crew is reliable: the slots of those who are still there
are used by the rules, the others no more. -/
structure Lawful (size : Nat) (crew : Crew) : Prop where
  orderly : (crew.shop.mend size).Orderly
  room : ∀ pool, crew.shop.room pool = if pool = 0 then size else 0
  present : ∀ worker, (crew.shop.mend size).OnBoard worker → ¬ crew.gone worker →
    (crew.shop.mend size).Truthful worker
  gone : ∀ worker, (crew.shop.mend size).OnBoard worker → crew.gone worker →
    (crew.shop.mend size).Deserted worker

theorem onBoard_mend : (crew.shop.mend size).OnBoard worker ↔ crew.shop.OnBoard worker := by
  simp only [Workshop.OnBoard, Workshop.mend, List.length_map]

theorem Ready.mended (ready : crew.Ready worker) (size : Nat) :
    (crew.shop.mend size).activity worker = .idle := by
  rw [Workshop.activity_mend, Workshop.isIdle_iff.mp ready.idle]
  rfl

theorem Lawful.truthful (lawful : crew.Lawful size) (ready : crew.Ready worker) :
    (crew.shop.mend size).Truthful worker :=
  lawful.present worker (onBoard_mend.mpr ready.onBoard) ready.present

theorem Lawful.fits (lawful : crew.Lawful size) : size ≤ wordMax := by
  have fits : crew.shop.room 0 ≤ wordMax := lawful.orderly.fits 0
  rwa [lawful.room, if_pos rfl] at fits

theorem Lawful.contains_iff (lawful : crew.Lawful size) {place : Site} :
    (crew.shop.mend size).Contains place ↔ place.pool = 0 ∧ place.resource.index < size :=
  Workshop.contains_iff_of_room lawful.room

theorem Lawful.pool (lawful : crew.Lawful size) : (crew.shop.mend size).OnePool :=
  Workshop.onePool_of_room lawful.room

theorem Lawful.reliable (lawful : crew.Lawful size) : (crew.shop.mend size).Reliable where
  orderly := lawful.orderly
  pool := lawful.pool
  slots := by
    intro worker onBoard
    by_cases left : crew.gone worker
    · exact .inr (lawful.gone worker onBoard left)
    · exact .inl (lawful.present worker onBoard left)

inductive Upshot (size : Nat) (crew next : Crew) : Prop
  | nothing (same : next.shop.mend size = crew.shop.mend size) (stayed : next.gone = crew.gone)
  | slot (mover : Worker) (present : ¬ crew.gone mover)
      (sound : Workshop.Sound (crew.shop.mend size) (next.shop.mend size) mover)
      (able : ∀ place, (crew.shop.mend size).activity mover = .locking place →
        (crew.shop.mend size).isHeld place = false)
      (stayed : next.gone = crew.gone)
  | leave (mover : Worker) (idle : (crew.shop.mend size).activity mover = .idle)
      (same : next.shop = crew.shop)
      (left : ∀ other, next.gone other ↔ other = mover ∨ crew.gone other)
      (truthful : (crew.shop.mend size).Truthful mover)
  | drop (mover : Worker) (guard : Guard) (left : crew.gone mover)
      (own : guard ∈ (crew.shop.mend size).guardsOf mover)
      (freed : next.shop.mend size = (crew.shop.mend size).free guard)
      (stayed : next.gone = crew.gone)

theorem Ready.upshot (ready : crew.Ready mover) (stayed : next.gone = crew.gone)
    (sound : Workshop.Sound (crew.shop.mend size) (next.shop.mend size) mover) :
    Upshot size crew next := by
  refine .slot mover ready.present sound (fun place locking => ?_) stayed
  rw [ready.mended] at locking
  contradiction

theorem Lawful.acquire (lawful : crew.Lawful size) (resource : Resource)
    (ready : crew.Ready worker) :
    Upshot size crew
      { crew with shop := (crew.shop.beginAcquire worker (site resource)).shop } := by
  have truthful := lawful.truthful ready
  have idle := ready.mended size
  by_cases within : (site resource).resource.index < size
  · have begun := crew.shop.mend_beginAcquire worker lawful.fits within
    by_cases few : ((crew.shop.mend size).guardsOf worker).length < 2
    · obtain ⟨_, _, sound⟩ := Workshop.beginAcquire_sound lawful.orderly truthful idle few
        (lawful.contains_iff.mpr ⟨rfl, within⟩)
      rw [← begun] at sound
      exact ready.upshot rfl sound
    · rw [Workshop.beginAcquire_full (site resource) truthful idle few] at begun
      exact .nothing begun rfl
  · exact .nothing (Workshop.mend_beginAcquire_outside truthful idle within) rfl

theorem Lawful.advance (lawful : crew.Lawful size) {step : Workshop.Step}
    (taken : crew.shop.advance worker = some step) :
    Upshot size crew { crew with shop := step.shop } := by
  have room : ∀ pool, crew.shop.room pool ≤ size := by
    intro pool
    rw [lawful.room]
    split <;> omega
  rcases Workshop.mend_advance room lawful.orderly.inside taken with advanced | same
  · by_cases left : crew.gone worker
    · -- the slot of one who has left is idle
      have busy := advanced.leads
      rw [(lawful.gone worker advanced.onBoard left).idle] at busy
      cases busy
    · have truthful := lawful.present worker advanced.onBoard left
      exact .slot worker left (advanced.sound lawful.orderly truthful)
        (fun place locking => advanced.unheld locking) rfl
  · exact .nothing same rfl

theorem Lawful.upshot (lawful : crew.Lawful size) (act : crew.Act next) :
    Upshot size crew next := by
  cases act with
  | acquire worker resource ready => exact lawful.acquire resource ready
  | release worker guard ready own =>
      obtain ⟨_, sound, _⟩ := Workshop.beginRelease_sound lawful.orderly (lawful.truthful ready)
        (ready.mended size) own
      rw [← crew.shop.mend_beginRelease] at sound
      exact ready.upshot rfl sound
  | advance worker step taken => exact lawful.advance taken
  | complete worker now ready =>
      have sound := Workshop.complete_sound lawful.orderly (lawful.truthful ready) now
      have mended : (crew.shop.complete worker now).mend size =
          (crew.shop.mend size).complete worker now :=
        Workshop.mend_rewrite _ fun _ => rfl
      rw [← mended] at sound
      exact ready.upshot rfl sound
  | record worker ready => exact .nothing rfl rfl
  | leave worker ready =>
      exact .leave worker (ready.mended size) rfl (fun _ => Iff.rfl) (lawful.truthful ready)
  | drop worker guard left own => exact .drop worker guard left own rfl rfl
  | stop reason => exact .nothing rfl rfl

theorem Lawful.act (lawful : crew.Lawful size) (act : crew.Act next) : next.Lawful size := by
  cases lawful.upshot act with
  | nothing same stayed =>
      refine ⟨same ▸ lawful.orderly, ?_, ?_, ?_⟩
      · change ∀ pool, (next.shop.mend size).room pool = _
        rw [same]
        exact lawful.room
      · rw [same, stayed]
        exact lawful.present
      · rw [same, stayed]
        exact lawful.gone
  | slot mover present sound able stayed =>
      have frame := sound.frame
      refine ⟨sound.orderly, fun pool => (frame.room pool).trans (lawful.room pool), ?_, ?_⟩
      · rw [stayed]
        intro worker onBoard there
        by_cases same : worker = mover
        · exact same ▸ sound.truthful
        · exact (lawful.present worker (frame.onBoard.mp onBoard) there).framed frame same
      · rw [stayed]
        intro worker onBoard left
        have different : worker ≠ mover := fun same => present (same ▸ left)
        exact (lawful.gone worker (frame.onBoard.mp onBoard) left).framed frame different
  | leave mover idle same left truthful =>
      refine ⟨same ▸ lawful.orderly, same ▸ lawful.room, ?_, ?_⟩
      · rw [same]
        intro worker onBoard there
        exact lawful.present worker onBoard fun before => there ((left worker).mpr (.inr before))
      · rw [same]
        intro worker onBoard gone
        rcases (left worker).mp gone with rfl | before
        · exact truthful.deserted lawful.orderly lawful.pool idle
        · exact lawful.gone worker onBoard before
  | drop mover guard left own freed stayed =>
      have frame := lawful.orderly.frame_free own
      refine ⟨freed ▸ lawful.orderly.free own, ?_, ?_, ?_⟩
      · change ∀ pool, (next.shop.mend size).room pool = _
        rw [freed]
        exact fun pool => (frame.room pool).trans (lawful.room pool)
      · rw [freed, stayed]
        intro worker onBoard there
        have different : worker ≠ mover := fun same => there (same ▸ left)
        exact (lawful.present worker (frame.onBoard.mp onBoard) there).framed frame different
      · rw [freed, stayed]
        intro worker onBoard gone
        by_cases same : worker = mover
        · subst same
          exact (lawful.gone worker onBoard left).free lawful.orderly own
        · exact (lawful.gone worker (frame.onBoard.mp onBoard) gone).framed frame same

theorem lawful_fresh (workers : Nat) (epoch : Instant) (fits : size ≤ wordMax) :
    (fresh size workers epoch).Lawful size := by
  have settled := Workshop.settled_fresh workers [size] epoch (by simpa using fits)
  have whole : (fresh size workers epoch).shop.mend size = (fresh size workers epoch).shop := by
    simp [fresh, Workshop.mend, Workshop.fresh, Board.ofSize, Record.mend, Record.fresh,
      Activity.mend]
  refine ⟨?_, ?_, ?_, fun _ _ gone => gone.elim⟩
  · rw [whole]
    exact settled.orderly
  · exact Workshop.room_fresh workers size epoch
  · rw [whole]
    exact fun worker onBoard _ => settled.truthful worker onBoard

theorem lawful_of_acts {resources workers : Nat} {epoch : Instant} (fits : resources ≤ wordMax)
    (reached : Relation.ReflTransGen Act (fresh resources workers epoch) crew) :
    crew.Lawful resources := by
  induction reached with
  | refl => exact lawful_fresh workers epoch fits
  | tail _ act ih => exact ih.act act

end Crew

end Contention

import Contention.Proofs.Workshop.Effects
import Mathlib.Logic.Relation

namespace Contention

/-! Whole operations.  Any number of slots acquire resources of any pools and
release their own guards, each going on alone from the start of an operation to
its end or until it is blocked.  Main statement: between operations the board
tells the truth. -/

/-- How many steps are left of an operation, the wait for the lock not counted. -/
def Activity.remaining : Activity → Nat
  | .idle => 0
  | .locking _ => 3
  | .recording _ => 2
  | .settling _ => 1
  | .shifting _ => 2
  | .unlocking _ => 1

theorem Activity.remaining_le (activity : Activity) :
    activity.remaining ≤ Workshop.operationLength := by
  cases activity <;> simp [Activity.remaining, Workshop.operationLength]

namespace Workshop

variable {shop next : Workshop} {worker : Worker} {site : Site} {guard : Guard}

theorem Leads.remaining {before after : Activity} (leads : Leads before after) :
    after.remaining + 1 = before.remaining := by
  cases leads <;> rfl

theorem settle_reaches {Reaches : Workshop → Workshop → Prop}
    (onward : ∀ shop step, shop.advance worker = some step → Reaches shop step.shop)
    (fuel : Nat) (step : Step) :
    Relation.ReflTransGen Reaches step.shop (settle worker fuel step).shop := by
  induction fuel generalizing step with
  | zero => exact .refl
  | succ fuel ih =>
      unfold settle
      split
      · exact .refl
      · split
        · exact .refl
        · rename_i next taken
          exact .head (onward step.shop next taken)
            (ih { next with events := step.events ++ next.events })

theorem settle_sound (fuel : Nat) {step : Step} (clean : step.fault = none)
    (orderly : step.shop.Orderly) (truthful : step.shop.Truthful worker)
    (enough : (step.shop.activity worker).remaining ≤ fuel) :
    (settle worker fuel step).fault = none ∧
      Sound step.shop (settle worker fuel step).shop worker ∧
      ((settle worker fuel step).shop.activity worker).Resting := by
  induction fuel generalizing step with
  | zero =>
      refine ⟨clean, .refl orderly truthful, ?_⟩
      change (step.shop.activity worker).Resting
      cases busy : step.shop.activity worker <;> simp_all [Activity.remaining, Activity.Resting]
  | succ fuel ih =>
      cases taken : step.shop.advance worker with
      | none =>
          rw [settle_stuck taken]
          refine ⟨clean, .refl orderly truthful, ?_⟩
          rcases advance_eq_none taken with idle | ⟨site, locking, _⟩
          · rw [idle]; trivial
          · rw [locking]; trivial
      | some next =>
          obtain ⟨nextClean, advanced⟩ := advance_advanced taken (orderly.inside worker)
          have sound := advanced.sound orderly truthful
          have shorter := advanced.leads.remaining
          rw [settle_advance clean taken]
          obtain ⟨endClean, endSound, rests⟩ :=
            @ih { next with events := step.events ++ next.events } nextClean
              sound.orderly sound.truthful (by simp only; omega)
          exact ⟨endClean, sound.trans endSound, rests⟩

/-- One operation of a slot, used as slots are meant to be: it acquires resources
that there are, does nothing while it is blocked, and releases its own guards. -/
inductive Operation (shop : Workshop) : Workshop → Prop
  | acquire (worker : Worker) (site : Site) (onBoard : shop.OnBoard worker)
      (idle : shop.isIdle worker = true) (inside : shop.Contains site) :
      Operation shop (shop.acquire worker site).shop
  /-- The resource that a blocked slot waits for is free, and it is the slot's turn. -/
  | resume (worker : Worker) (site : Site) (blocked : shop.activity worker = .locking site)
      (unheld : shop.isHeld site = false) : Operation shop (shop.resume worker).shop
  | release (worker : Worker) (guard : Guard) (idle : shop.isIdle worker = true)
      (own : guard ∈ shop.guardsOf worker) : Operation shop (shop.release worker guard).shop

structure Settled (shop : Workshop) : Prop where
  orderly : shop.Orderly
  truthful : ∀ worker, shop.OnBoard worker → shop.Truthful worker
  resting : ∀ worker, (shop.activity worker).Resting

theorem activity_fresh (workers : Nat) (sizes : List Nat) (epoch : Instant) (worker : Worker) :
    (fresh workers sizes epoch).activity worker = .idle := by
  simp only [Workshop.activity, fresh, List.getElem?_replicate]
  split <;> rfl

theorem room_fresh (workers size : Nat) (epoch : Instant) (pool : Nat) :
    (fresh workers [size] epoch).room pool = if pool = 0 then size else 0 := by
  cases pool with
  | zero => exact Pool.size_ofSize size
  | succ pool => rfl

theorem settled_fresh (workers : Nat) (sizes : List Nat) (epoch : Instant)
    (fits : ∀ size ∈ sizes, size ≤ wordMax) : (fresh workers sizes epoch).Settled where
  orderly := {
    guarded := guarded_fresh workers sizes epoch
    slots := by simp [fresh, Board.size, Board.ofSize]
    takers := by simp [fresh]
    inside := by
      intro worker site locking
      rw [activity_fresh] at locking
      contradiction
    fits := by
      intro pool
      simp only [room, fresh, List.getElem?_map]
      cases found : sizes[pool]? with
      | none => simp
      | some size => simpa using fits size (List.mem_of_getElem? found) }
  truthful := by
    intro worker onBoard
    refine ⟨.fresh epoch, [], ?_, ?_⟩
    · simp only [OnBoard, fresh, List.length_replicate] at onBoard
      simp only [fresh, Board.ofSize, Board.record?, List.getElem?_replicate, if_pos onBoard]
    · rw [activity_fresh]
      exact .fresh epoch
  resting := by
    intro worker
    rw [activity_fresh]
    trivial

theorem Settled.accurate (settled : shop.Settled) {record : Record}
    (found : shop.board.record? worker = some record) :
    Accurate record (shop.activity worker) (shop.guardsOf worker) (shop.guardsOf worker) ∧
      (shop.activity worker).secondPlace = 1 ∧ (shop.activity worker).Resting := by
  have rests := settled.resting worker
  obtain ⟨shown, accurate⟩ :=
    (settled.truthful worker (settled.orderly.onBoard found)).accurate found
  obtain ⟨rfl, still⟩ := accurate.shows.resting rests
  exact ⟨accurate, still, rests⟩

theorem Settled.record_exists (settled : shop.Settled) (onBoard : shop.OnBoard worker) :
    ∃ record, shop.board.record? worker = some record := by
  obtain ⟨record, _, found, _⟩ := settled.truthful worker onBoard
  exact ⟨record, found⟩

theorem Settled.second_eq_none_iff (settled : shop.Settled) {record : Record}
    (found : shop.board.record? worker = some record) :
    record.second = none ↔ (shop.guardsOf worker).length < 2 := by
  obtain ⟨accurate, still, _⟩ := settled.accurate found
  rw [accurate.second, still, Option.map_eq_none_iff, List.getElem?_eq_none_iff]
  exact Nat.lt_succ_iff.symm

theorem Settled.few_of_locking (settled : shop.Settled) {record : Record}
    (found : shop.board.record? worker = some record)
    (locking : shop.activity worker = .locking site) : (shop.guardsOf worker).length < 2 := by
  obtain ⟨⟨shows, _⟩, _⟩ := settled.accurate found
  rw [locking] at shows
  cases shows
  assumption

theorem Settled.of_sound (settled : shop.Settled) (sound : Sound shop next worker)
    (rests : (next.activity worker).Resting) : next.Settled where
  orderly := sound.orderly
  truthful := by
    intro other onBoard
    by_cases same : other = worker
    · exact same ▸ sound.truthful
    · exact (settled.truthful other (sound.frame.onBoard.mp onBoard)).framed sound.frame same
  resting := by
    intro other
    by_cases same : other = worker
    · exact same ▸ rests
    · rw [sound.frame.activity other same]
      exact settled.resting other

theorem acquire_sound (settled : shop.Settled) (onBoard : shop.OnBoard worker)
    (idle : shop.activity worker = .idle) (inside : shop.Contains site) :
    (shop.acquire worker site).fault = none ∧ (shop.guardsOf worker).length < 2 ∧
        Sound shop (shop.acquire worker site).shop worker ∧
        ((shop.acquire worker site).shop.activity worker).Resting ∨
      (shop.acquire worker site).fault = some (.alreadyHoldsTwo worker) ∧
        (shop.guardsOf worker).length = 2 ∧ (shop.acquire worker site).shop = shop := by
  have truthful := settled.truthful worker onBoard
  by_cases few : (shop.guardsOf worker).length < 2
  · obtain ⟨clean, _, sound⟩ := beginAcquire_sound settled.orderly truthful idle few inside
    obtain ⟨endClean, endSound, rests⟩ := settle_sound operationLength clean sound.orderly
      sound.truthful (Activity.remaining_le _)
    exact .inl ⟨endClean, few, sound.trans endSound, rests⟩
  · have refused := beginAcquire_full site truthful idle few
    have same : shop.acquire worker site = { shop, fault := some (.alreadyHoldsTwo worker) } := by
      simp only [acquire, refused, settle, operationLength]
    obtain ⟨_, _, _, accurate⟩ := truthful
    rw [same]
    exact .inr ⟨rfl, Nat.le_antisymm accurate.few (Nat.le_of_not_lt few), rfl⟩

theorem release_sound (settled : shop.Settled) (idle : shop.activity worker = .idle)
    (own : guard ∈ shop.guardsOf worker) :
    (shop.release worker guard).fault = none ∧ Sound shop (shop.release worker guard).shop worker ∧
      ((shop.release worker guard).shop.activity worker).Resting := by
  have onBoard := settled.orderly.onBoard_of_guard own
  obtain ⟨clean, sound, _⟩ :=
    beginRelease_sound settled.orderly (settled.truthful worker onBoard) idle own
  obtain ⟨endClean, endSound, rests⟩ := settle_sound operationLength clean sound.orderly
    sound.truthful (Activity.remaining_le _)
  exact ⟨endClean, sound.trans endSound, rests⟩

theorem resume_sound (settled : shop.Settled) (onBoard : shop.OnBoard worker) :
    (shop.resume worker).fault = none ∧ Sound shop (shop.resume worker).shop worker ∧
      ((shop.resume worker).shop.activity worker).Resting :=
  settle_sound operationLength rfl settled.orderly (settled.truthful worker onBoard)
    (Activity.remaining_le _)

theorem Operation.settled (operation : shop.Operation next) (settled : shop.Settled) :
    next.Settled := by
  cases operation with
  | acquire worker site onBoard idle inside =>
      rcases acquire_sound settled onBoard (isIdle_iff.mp idle) inside with
        ⟨_, _, sound, rests⟩ | ⟨_, _, same⟩
      · exact settled.of_sound sound rests
      · rwa [same]
  | resume worker site blocked =>
      have onBoard := onBoard_of_activity blocked (by simp)
      obtain ⟨_, sound, rests⟩ := resume_sound settled onBoard
      exact settled.of_sound sound rests
  | release worker guard idle own =>
      obtain ⟨_, sound, rests⟩ := release_sound settled (isIdle_iff.mp idle) own
      exact settled.of_sound sound rests

/-- What the board and the locks say of the guards, and what the next operation of each slot
does to all of them. -/
structure TellsTruth (shop : Workshop) : Prop where
  /-- A record names its slot's guards in the order in which they were acquired. -/
  held : ∀ worker record, shop.board.record? worker = some record →
    record.held.toList = (shop.guardsOf worker).map (·.site.resource)
  few : ∀ worker, (shop.guardsOf worker).length ≤ 2
  /-- A record announces a resource exactly while its slot is blocked on it. -/
  awaiting : ∀ worker record, shop.board.record? worker = some record → ∀ resource,
    record.awaiting = some resource ↔ ∃ pool, shop.activity worker = .locking { pool, resource }
  /-- A resource is locked iff exactly one slot has a guard for it. -/
  locked : ∀ site, shop.isHeld site = true ↔
    ∃! worker, ∃ guard ∈ shop.guardsOf worker, guard.site = site
  release : ∀ worker guard, shop.isIdle worker = true → guard ∈ shop.guardsOf worker →
    (shop.release worker guard).fault = none ∧
      Returns shop (shop.release worker guard).shop worker guard
  /-- An acquire fails iff its slot has two guards, whether it is blocked or not. -/
  acquire : ∀ worker site, shop.OnBoard worker → shop.isIdle worker = true → shop.Contains site →
    ((shop.acquire worker site).fault.isSome = true ↔ (shop.guardsOf worker).length = 2)
  acquire_full : ∀ worker site, shop.isIdle worker = true → (shop.guardsOf worker).length = 2 →
    shop.acquire worker site = { shop, fault := some (.alreadyHoldsTwo worker) }
  acquire_gains : ∀ worker site, shop.OnBoard worker → shop.isIdle worker = true →
    shop.Contains site → (shop.guardsOf worker).length < 2 → shop.isHeld site = false →
    Gains shop (shop.acquire worker site).shop worker site
  acquire_blocks : ∀ worker site, shop.OnBoard worker → shop.isIdle worker = true →
    (shop.guardsOf worker).length < 2 → shop.isHeld site = true →
    Blocks shop (shop.acquire worker site).shop worker site
  resume : ∀ worker, shop.OnBoard worker → (shop.resume worker).fault = none
  resume_gains : ∀ worker site, shop.activity worker = .locking site →
    shop.isHeld site = false → Gains shop (shop.resume worker).shop worker site
  resume_blocked : ∀ worker site, shop.activity worker = .locking site →
    shop.isHeld site = true → shop.resume worker = { shop }

theorem Settled.tellsTruth (settled : shop.Settled) : shop.TellsTruth where
  held := by
    intro worker record found
    obtain ⟨accurate, still, _⟩ := settled.accurate found
    exact accurate.held_toList still
  few := by
    intro worker
    by_cases onBoard : shop.OnBoard worker
    · obtain ⟨_, _, _, accurate⟩ := settled.truthful worker onBoard
      exact accurate.few
    · have none : shop.guardsOf worker = [] :=
        List.eq_nil_iff_forall_not_mem.mpr fun guard own =>
          onBoard (settled.orderly.onBoard_of_guard own)
      simp [none]
  awaiting := by
    intro worker record found resource
    obtain ⟨accurate, _, rests⟩ := settled.accurate found
    rw [accurate.awaiting]
    cases busy : shop.activity worker with
    | idle => simp [Activity.announced]
    | locking site =>
        simp only [Activity.announced, Option.some.injEq, Activity.locking.injEq]
        constructor
        · rintro rfl
          exact ⟨site.pool, rfl⟩
        · rintro ⟨pool, rfl⟩
          rfl
    | _ => rw [busy] at rests; contradiction
  locked := by
    intro site
    rw [settled.orderly.guarded.held]
    constructor
    · rintro ⟨guard, live, same⟩
      refine ⟨guard.taker, ⟨guard, mem_guardsOf.mpr ⟨live, rfl⟩, same⟩, ?_⟩
      rintro worker ⟨other, own, again⟩
      obtain ⟨otherLive, taken⟩ := mem_guardsOf.mp own
      have equal := settled.orderly.guarded.eq_of_site otherLive live (again.trans same.symm)
      rw [← taken, equal]
    · rintro ⟨worker, ⟨guard, own, same⟩, _⟩
      exact ⟨guard, (mem_guardsOf.mp own).1, same⟩
  release := by
    intro worker guard idle own
    obtain ⟨record, found⟩ := settled.record_exists (settled.orderly.onBoard_of_guard own)
    obtain ⟨accurate, still, _⟩ := settled.accurate found
    apply settled.orderly.release_returns found (isIdle_iff.mp idle) (mem_guardsOf.mp own).1
    rw [accurate.held_toList still]
    exact List.mem_map_of_mem own
  acquire := by
    intro worker site onBoard idle inside
    rcases acquire_sound settled onBoard (isIdle_iff.mp idle) inside with
      ⟨clean, few, _, _⟩ | ⟨refused, full, _⟩
    · simp [clean, Nat.ne_of_lt few]
    · simp [refused, full]
  acquire_full := by
    intro worker site idle full
    have some : 0 < (shop.guardsOf worker).length := by omega
    obtain ⟨guard, own⟩ := List.exists_mem_of_length_pos some
    have onBoard := settled.orderly.onBoard_of_guard own
    obtain ⟨record, found⟩ := settled.record_exists onBoard
    apply Workshop.acquire_full found
    rw [Option.isSome_iff_ne_none, ne_eq, settled.second_eq_none_iff found]
    omega
  acquire_gains := by
    intro worker site onBoard idle inside few unheld
    obtain ⟨record, found⟩ := settled.record_exists onBoard
    have empty := (settled.second_eq_none_iff found).mpr few
    exact (settled.orderly.acquire_gains found (isIdle_iff.mp idle) empty inside unheld).2
  acquire_blocks := by
    intro worker site onBoard idle few held
    obtain ⟨record, found⟩ := settled.record_exists onBoard
    have empty := (settled.second_eq_none_iff found).mpr few
    exact (settled.orderly.acquire_blocks found empty held).2
  resume := fun worker onBoard => (resume_sound settled onBoard).1
  resume_gains := by
    intro worker site locking unheld
    obtain ⟨record, found⟩ := settled.record_exists (onBoard_of_activity locking (by simp))
    have few := settled.few_of_locking found locking
    have empty := (settled.second_eq_none_iff found).mpr few
    exact settled.orderly.resume_gains found locking empty unheld
  resume_blocked := by
    intro worker site locking held
    exact settle_stuck (advance_of_held locking held) operationLength

/-- Slots that are used as they are meant to be leave a board that tells the truth:
any number of them over pools of any sizes, in any order of their operations. -/
theorem tellsTruth_of_operations {workers : Nat} {sizes : List Nat} {epoch : Instant}
    (fits : ∀ size ∈ sizes, size ≤ wordMax)
    (reached : Relation.ReflTransGen Operation (fresh workers sizes epoch) shop) :
    shop.TellsTruth := by
  have settled : shop.Settled := by
    induction reached with
    | refl => exact settled_fresh workers sizes epoch fits
    | tail _ operation ih => exact operation.settled ih
  exact settled.tellsTruth

/-- One slot holds resources of two pools, another is blocked on the first of them, and gets it
after it was released. -/
theorem tellsTruth_after_handOver :
    ∃ full freed shop : Workshop,
      Relation.ReflTransGen Operation (fresh 2 [2, 1] .origin) full ∧
      full.TellsTruth ∧ freed.TellsTruth ∧ shop.TellsTruth ∧
      full.guards.map (·.site) = [⟨0, ⟨1⟩⟩, ⟨1, ⟨0⟩⟩] ∧
      (full.board.record? ⟨0⟩).map (·.held) = some (.two ⟨1⟩ ⟨0⟩) ∧
      (full.board.record? ⟨1⟩).map (·.awaiting) = some (some ⟨1⟩) ∧
      freed = (full.release ⟨0⟩ ⟨0, ⟨0, ⟨1⟩⟩, ⟨0⟩⟩).shop ∧
      Returns full freed ⟨0⟩ ⟨0, ⟨0, ⟨1⟩⟩, ⟨0⟩⟩ ∧
      freed.guards.map (·.site) = [⟨1, ⟨0⟩⟩] ∧ freed.isHeld ⟨0, ⟨1⟩⟩ = false ∧
      (freed.board.record? ⟨0⟩).map (·.held) = some (.one ⟨0⟩) ∧
      shop = (freed.resume ⟨1⟩).shop ∧ Gains freed shop ⟨1⟩ ⟨0, ⟨1⟩⟩ ∧
      (shop.guardsOf ⟨0⟩).map (·.site) = [⟨1, ⟨0⟩⟩] ∧
      (shop.guardsOf ⟨1⟩).map (·.site) = [⟨0, ⟨1⟩⟩] ∧ shop.isHeld ⟨0, ⟨1⟩⟩ = true ∧
      (shop.board.record? ⟨1⟩).map (·.held) = some (.one ⟨1⟩) ∧
      (shop.board.record? ⟨1⟩).map (·.awaiting) = some none := by
  have held : Relation.ReflTransGen Operation (fresh 2 [2, 1] .origin) _ :=
    .single (.acquire ⟨0⟩ ⟨0, ⟨1⟩⟩ (by decide) (by decide) (by decide))
  have blocked := held.tail (.acquire ⟨1⟩ ⟨0, ⟨1⟩⟩ (by decide) (by decide) (by decide))
  have full := blocked.tail (.acquire ⟨0⟩ ⟨1, ⟨0⟩⟩ (by decide) (by decide) (by decide))
  have freed := full.tail (.release ⟨0⟩ ⟨0, ⟨0, ⟨1⟩⟩, ⟨0⟩⟩ (by decide) (by decide))
  have handed := freed.tail (.resume ⟨1⟩ ⟨0, ⟨1⟩⟩ (by decide) (by decide))
  have before := tellsTruth_of_operations (by decide) full
  have between := tellsTruth_of_operations (by decide) freed
  have returns := (before.release ⟨0⟩ ⟨0, ⟨0, ⟨1⟩⟩, ⟨0⟩⟩ (by decide) (by decide)).2
  have gains := between.resume_gains ⟨1⟩ ⟨0, ⟨1⟩⟩ (by decide) (by decide)
  exact ⟨_, _, _, full, before, between, tellsTruth_of_operations (by decide) handed, by decide,
    by decide, by decide, rfl, returns, by decide, by decide, by decide, rfl, gains, by decide,
    by decide, by decide, by decide, by decide⟩

end Workshop

end Contention

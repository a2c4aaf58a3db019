import Contention.Workshop.Basic

namespace Contention.Workshop

variable {shop : Workshop} {worker other : Worker} {site : Site} {guard : Guard}

/-- The size of one of the pools, zero if there is no such pool. -/
def room (shop : Workshop) (pool : Nat) : Nat := (shop.pools[pool]?.map Pool.size).getD 0

def Contains (shop : Workshop) (site : Site) : Prop := site.resource.index < shop.room site.pool

def OnBoard (shop : Workshop) (worker : Worker) : Prop := worker.index < shop.activities.length

instance (shop : Workshop) (site : Site) : Decidable (shop.Contains site) :=
  inferInstanceAs (Decidable (site.resource.index < shop.room site.pool))

instance (shop : Workshop) (worker : Worker) : Decidable (shop.OnBoard worker) :=
  inferInstanceAs (Decidable (worker.index < shop.activities.length))

theorem isIdle_iff : shop.isIdle worker = true ↔ shop.activity worker = .idle := by
  simp [isIdle]

theorem activity_setActivity {activity : Activity} (onBoard : shop.OnBoard worker) :
    (shop.setActivity worker activity).activity other =
      if other = worker then activity else shop.activity other := by
  cases worker
  cases other
  simp only [OnBoard] at onBoard
  simp only [Workshop.activity, setActivity, List.getElem?_set, Worker.mk.injEq]
  grind

theorem setActivity_self (shop : Workshop) (worker : Worker) :
    shop.setActivity worker (shop.activity worker) = shop := by
  unfold setActivity activity
  congr
  refine List.ext_getElem? fun index => ?_
  rw [List.getElem?_set]
  grind

theorem onBoard_of_activity {activity : Activity} (busy : shop.activity worker = activity)
    (different : activity ≠ .idle) : shop.OnBoard worker := by
  refine Nat.lt_of_not_le fun outside => ?_
  have missing : shop.activities[worker.index]? = none := List.getElem?_eq_none outside
  simp only [Workshop.activity, missing, Option.getD_none] at busy
  exact different busy.symm

theorem mem_guardsOf :
    guard ∈ shop.guardsOf worker ↔ guard ∈ shop.guards ∧ guard.taker = worker := by
  simp [guardsOf]

@[simp] theorem guardsOf_setActivity {activity : Activity} :
    (shop.setActivity worker activity).guardsOf other = shop.guardsOf other := rfl

def nextGuard (shop : Workshop) (worker : Worker) (site : Site) : Guard :=
  { number := shop.made, site, taker := worker }

theorem guardsOf_lock :
    (shop.lock worker site).1.guardsOf other =
      shop.guardsOf other ++ if other = worker then [shop.nextGuard worker site] else [] := by
  by_cases same : other = worker
  · simp [guardsOf, lock, nextGuard, same]
  · have foreign : worker ≠ other := fun equal => same equal.symm
    simp [guardsOf, lock, same, foreign]

theorem guardsOf_free :
    (shop.free guard).guardsOf other =
      (shop.guardsOf other).filter fun kept => decide (kept.number ≠ guard.number) := by
  simp only [guardsOf, free, List.filter_filter, Bool.and_comm]

/-- The slots other than the worker's have kept their activity, their guards and
their records, and the pools their sizes. -/
structure Frame (before after : Workshop) (worker : Worker) : Prop where
  slots : after.activities.length = before.activities.length
  records : after.board.size = before.board.size
  room : ∀ pool, after.room pool = before.room pool
  activity : ∀ other, other ≠ worker → after.activity other = before.activity other
  guardsOf : ∀ other, other ≠ worker → after.guardsOf other = before.guardsOf other
  record? : ∀ other, other ≠ worker → after.board.record? other = before.board.record? other

theorem Frame.refl (shop : Workshop) (worker : Worker) : Frame shop shop worker :=
  ⟨rfl, rfl, fun _ => rfl, fun _ _ => rfl, fun _ _ => rfl, fun _ _ => rfl⟩

theorem Frame.trans {first second third : Workshop} (early : Frame first second worker)
    (late : Frame second third worker) : Frame first third worker where
  slots := late.slots.trans early.slots
  records := late.records.trans early.records
  room pool := (late.room pool).trans (early.room pool)
  activity other different := (late.activity other different).trans (early.activity other different)
  guardsOf other different := (late.guardsOf other different).trans (early.guardsOf other different)
  record? other different := (late.record? other different).trans (early.record? other different)

theorem Frame.onBoard {before after : Workshop} (frame : Frame before after worker) :
    after.OnBoard other ↔ before.OnBoard other := by
  simp only [OnBoard, frame.slots]

theorem Frame.contains {before after : Workshop} (frame : Frame before after worker) :
    after.Contains site ↔ before.Contains site := by
  simp only [Contains, frame.room]

theorem frame_setActivity (shop : Workshop) (worker : Worker) (activity : Activity) :
    Frame shop (shop.setActivity worker activity) worker where
  slots := by simp [setActivity]
  records := rfl
  room _ := rfl
  activity := by
    intro other different
    have apart : worker.index ≠ other.index := fun same => different (congrArg Worker.mk same.symm)
    simp only [Workshop.activity, setActivity, List.getElem?_set_ne apart]
  guardsOf _ _ := rfl
  record? _ _ := rfl

theorem activity_after {middle : Workshop} {activity : Activity} (frame : Frame shop middle worker)
    (onBoard : shop.OnBoard worker) :
    (middle.setActivity worker activity).activity worker = activity := by
  rw [activity_setActivity (frame.onBoard.mpr onBoard), if_pos rfl]

theorem frame_rewrite (shop : Workshop) (worker : Worker) (change : Record → Record) :
    Frame shop (shop.rewrite worker change) worker where
  slots := rfl
  records := by simp [rewrite]
  room _ := rfl
  activity _ _ := rfl
  guardsOf _ _ := rfl
  record? := by
    intro other different
    simp only [rewrite, Board.record?_update, if_neg different.symm]

theorem room_modify {pools : List Pool} {change : Pool → Pool} (pool chosen : Nat)
    (kept : ∀ pool, (change pool).size = pool.size) :
    ((pools.modify chosen change)[pool]?.map Pool.size).getD 0 =
      (pools[pool]?.map Pool.size).getD 0 := by
  rw [List.getElem?_modify]
  by_cases same : chosen = pool
  · cases pools[pool]? <;> simp [same, kept]
  · simp [same]

theorem frame_lock (shop : Workshop) (worker : Worker) (site : Site) :
    Frame shop (shop.lock worker site).1 worker where
  slots := rfl
  records := rfl
  room pool := room_modify pool site.pool (Pool.size_lock · site.resource)
  activity _ _ := rfl
  guardsOf := by
    intro other different
    rw [guardsOf_lock, if_neg different, List.append_nil]
  record? _ _ := rfl

/-- Freeing a guard leaves all slots but its taker's alone, if no two guards have
one number. -/
theorem frame_free (alone : ∀ other ∈ shop.guards, other.number = guard.number → other = guard) :
    Frame shop (shop.free guard) guard.taker where
  slots := rfl
  records := rfl
  room pool := room_modify pool guard.site.pool (Pool.size_unlock · guard.site.resource)
  activity _ _ := rfl
  guardsOf := by
    intro other different
    rw [guardsOf_free, List.filter_eq_self]
    intro kept member
    obtain ⟨live, taken⟩ := mem_guardsOf.mp member
    have apart : kept.number ≠ guard.number := by
      intro same
      exact different (taken.symm.trans (congrArg Guard.taker (alone kept live same)))
    exact decide_eq_true apart
  record? _ _ := rfl

inductive Advanced (shop : Workshop) (worker : Worker) : Workshop → Prop
  | lock (site : Site) (locking : shop.activity worker = .locking site)
      (inside : shop.Contains site) (unheld : shop.isHeld site = false) :
      Advanced shop worker
        ((shop.lock worker site).1.setActivity worker (.recording (shop.nextGuard worker site)))
  | note (guard : Guard) (recording : shop.activity worker = .recording guard) :
      Advanced shop worker
        ((shop.rewrite worker (·.note guard.site.resource)).setActivity worker (.settling guard))
  | settle (guard : Guard) (settling : shop.activity worker = .settling guard) :
      Advanced shop worker ((shop.rewrite worker Record.settle).setActivity worker .idle)
  | clear (guard : Guard) (shifting : shop.activity worker = .shifting guard) :
      Advanced shop worker
        ((shop.rewrite worker Record.clearSecond).setActivity worker (.unlocking guard))
  | unlock (guard : Guard) (unlocking : shop.activity worker = .unlocking guard) :
      Advanced shop worker ((shop.free guard).setActivity worker .idle)

theorem Advanced.onBoard {next : Workshop} (advanced : shop.Advanced worker next) :
    shop.OnBoard worker := by
  cases advanced with
  | lock site locking => exact onBoard_of_activity locking (by simp)
  | note guard recording => exact onBoard_of_activity recording (by simp)
  | settle guard settling => exact onBoard_of_activity settling (by simp)
  | clear guard shifting => exact onBoard_of_activity shifting (by simp)
  | unlock guard unlocking => exact onBoard_of_activity unlocking (by simp)

inductive Leads : Activity → Activity → Prop
  | lock (site : Site) (guard : Guard) : Leads (.locking site) (.recording guard)
  | note (guard : Guard) : Leads (.recording guard) (.settling guard)
  | settle (guard : Guard) : Leads (.settling guard) .idle
  | clear (guard : Guard) : Leads (.shifting guard) (.unlocking guard)
  | unlock (guard : Guard) : Leads (.unlocking guard) .idle

theorem Advanced.leads {next : Workshop} (advanced : shop.Advanced worker next) :
    Leads (shop.activity worker) (next.activity worker) := by
  have onBoard := advanced.onBoard
  cases advanced with
  | lock site locking =>
      rw [activity_after (frame_lock shop worker site) onBoard, locking]
      exact .lock site _
  | note guard recording =>
      rw [activity_after (frame_rewrite shop worker _) onBoard, recording]
      exact .note guard
  | settle guard settling =>
      rw [activity_after (frame_rewrite shop worker _) onBoard, settling]
      exact .settle guard
  | clear guard shifting =>
      rw [activity_after (frame_rewrite shop worker _) onBoard, shifting]
      exact .clear guard
  | unlock guard unlocking =>
      rw [activity_after (.refl (shop.free guard) worker) onBoard, unlocking]
      exact .unlock guard

theorem Advanced.unheld {next : Workshop} (advanced : shop.Advanced worker next)
    (locking : shop.activity worker = .locking site) : shop.isHeld site = false := by
  cases advanced with
  | lock other same _ unheld =>
      cases locking.symm.trans same
      exact unheld
  | note _ busy | settle _ busy | clear _ busy | unlock _ busy => cases locking.symm.trans busy

theorem advance_advanced {step : Step} (taken : shop.advance worker = some step)
    (inside : ∀ site, shop.activity worker = .locking site → shop.Contains site) :
    step.fault = none ∧ shop.Advanced worker step.shop := by
  cases busy : shop.activity worker with
  | idle => simp [advance, busy] at taken
  | locking site =>
      have within := inside site busy
      have enough : ¬ (shop.pools[site.pool]?.map Pool.size).getD 0 ≤ site.resource.index :=
        Nat.not_le_of_lt within
      by_cases held : shop.isHeld site = true
      · simp [advance, busy, enough, held] at taken
      · simp only [advance, busy, enough, if_false, held] at taken
        cases taken
        exact ⟨rfl, .lock site busy within (Bool.eq_false_iff.mpr held)⟩
  | recording guard =>
      simp only [advance, busy] at taken
      cases taken
      exact ⟨rfl, .note guard busy⟩
  | settling guard =>
      simp only [advance, busy] at taken
      cases taken
      exact ⟨rfl, .settle guard busy⟩
  | shifting guard =>
      simp only [advance, busy] at taken
      cases taken
      exact ⟨rfl, .clear guard busy⟩
  | unlocking guard =>
      simp only [advance, busy] at taken
      cases taken
      exact ⟨rfl, .unlock guard busy⟩

/-- A slot in the middle of something can only be kept from going on by the
resource that it wants. -/
theorem advance_eq_none (stuck : shop.advance worker = none) :
    shop.activity worker = .idle ∨
      ∃ site, shop.activity worker = .locking site ∧ shop.isHeld site = true := by
  cases busy : shop.activity worker with
  | idle => exact .inl rfl
  | locking site =>
      cases held : shop.isHeld site with
      | true => exact .inr ⟨site, rfl, held⟩
      | false =>
          simp only [advance, busy, held] at stuck
          split at stuck <;> contradiction
  | recording guard => simp [advance, busy] at stuck
  | settling guard => simp [advance, busy] at stuck
  | shifting guard => simp [advance, busy] at stuck
  | unlocking guard => simp [advance, busy] at stuck

end Contention.Workshop

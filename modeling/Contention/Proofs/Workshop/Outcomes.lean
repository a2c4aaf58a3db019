import Contention.Proofs.Workshop.Guards

namespace Contention

theorem Board.update_update (board : Board) (worker : Worker) (early late : Record → Record) :
    (board.update worker early).update worker late = board.update worker (late ∘ early) := by
  simp only [update, List.modify_modify_eq]

namespace Workshop

variable {shop : Workshop} {worker other : Worker} {site : Site} {guard : Guard} {record : Record}
  {events : List Event}

@[simp] theorem setActivity_setActivity {early late : Activity} :
    (shop.setActivity worker early).setActivity worker late = shop.setActivity worker late := by
  simp [setActivity]

@[simp] theorem rewrite_setActivity {activity : Activity} {change : Record → Record} :
    (shop.setActivity worker activity).rewrite other change =
      (shop.rewrite other change).setActivity worker activity := rfl

@[simp] theorem lock_setActivity {activity : Activity} :
    ((shop.setActivity worker activity).lock other site).1 =
      (shop.lock other site).1.setActivity worker activity := rfl

@[simp] theorem free_setActivity {activity : Activity} :
    (shop.setActivity worker activity).free guard =
      (shop.free guard).setActivity worker activity := rfl

theorem rewrite_rewrite (shop : Workshop) (worker : Worker) (early late : Record → Record) :
    (shop.rewrite worker early).rewrite worker late = shop.rewrite worker (late ∘ early) := by
  simp only [rewrite, Board.update_update]

theorem settle_failed {step : Step} (failed : step.fault.isSome = true) (fuel : Nat) :
    settle worker fuel step = step := by
  obtain ⟨fault, failure⟩ := Option.isSome_iff_exists.mp failed
  cases fuel <;> simp only [settle, failure]

theorem settle_advance {step next : Step} (clean : step.fault = none)
    (taken : step.shop.advance worker = some next) (fuel : Nat) :
    settle worker (fuel + 1) step =
      settle worker fuel { next with events := step.events ++ next.events } := by
  simp only [settle, clean, taken]

theorem setActivity_idle (idle : shop.activity worker = .idle) :
    shop.setActivity worker .idle = shop := by
  rw [← idle, setActivity_self]

theorem settle_stuck {step : Step} (stuck : step.shop.advance worker = none) (fuel : Nat) :
    settle worker fuel step = step := by
  cases fuel with
  | zero => rfl
  | succ fuel => cases failure : step.fault <;> simp only [settle, failure, stuck]

theorem settle_idle (idle : shop.activity worker = .idle) (fuel : Nat) :
    settle worker fuel { shop := shop.setActivity worker .idle, events } = { shop, events } := by
  rw [setActivity_idle idle]
  apply settle_stuck
  simp only [advance, idle]

section Rest

variable (onBoard : shop.OnBoard worker) (idle : shop.activity worker = .idle)

include onBoard

theorem activity_set (activity : Activity) :
    (shop.setActivity worker activity).activity worker = activity := by
  rw [activity_setActivity onBoard, if_pos rfl]

include idle

theorem settle_unlocking (fuel : Nat) :
    settle worker (fuel + 1) { shop := shop.setActivity worker (.unlocking guard), events } =
      { shop := shop.free guard
        events := events ++ [slotEvent "Released resource" worker guard.site.resource] } := by
  rw [settle_advance rfl (by simp only [advance, activity_set onBoard]; rfl)]
  simp only [free_setActivity, setActivity_setActivity]
  apply settle_idle
  exact idle

theorem settle_shifting (fuel : Nat) :
    settle worker (fuel + 2) { shop := shop.setActivity worker (.shifting guard), events } =
      { shop := (shop.free guard).rewrite worker Record.clearSecond
        events := events ++ [slotEvent "Released resource" worker guard.site.resource] } := by
  rw [settle_advance rfl (by simp only [advance, activity_set onBoard]; rfl)]
  simp only [rewrite_setActivity, setActivity_setActivity, List.append_nil]
  apply settle_unlocking <;> assumption

theorem settle_settling (fuel : Nat) :
    settle worker (fuel + 1) { shop := shop.setActivity worker (.settling guard), events } =
      { shop := shop.rewrite worker Record.settle
        events := events ++ [slotEvent "Acquired resource" worker guard.site.resource] } := by
  rw [settle_advance rfl (by simp only [advance, activity_set onBoard]; rfl)]
  simp only [rewrite_setActivity, setActivity_setActivity]
  apply settle_idle
  exact idle

theorem settle_recording (fuel : Nat) :
    settle worker (fuel + 2) { shop := shop.setActivity worker (.recording guard), events } =
      { shop := shop.rewrite worker fun record => (record.note guard.site.resource).settle
        events := events ++ [slotEvent "Acquired resource" worker guard.site.resource] } := by
  rw [settle_advance rfl (by simp only [advance, activity_set onBoard]; rfl)]
  simp only [rewrite_setActivity, setActivity_setActivity, List.append_nil]
  refine (settle_settling ?_ ?_ fuel).trans ?_
  · exact onBoard
  · exact idle
  · rw [rewrite_rewrite]
    rfl

theorem settle_locking (inside : shop.Contains site) (unheld : shop.isHeld site = false)
    (fuel : Nat) :
    settle worker (fuel + 3) { shop := shop.setActivity worker (.locking site), events } =
      { shop := (shop.lock worker site).1.rewrite worker fun record =>
          (record.note site.resource).settle
        events := events ++ [slotEvent "Acquired resource" worker site.resource] } := by
  have taken : (shop.setActivity worker (.locking site)).advance worker = some {
      shop := (shop.lock worker site).1.setActivity worker
        (.recording (shop.nextGuard worker site)) } := by
    have within : ¬ shop.room site.pool ≤ site.resource.index := Nat.not_le_of_lt inside
    have able : ¬ (shop.setActivity worker (.locking site)).isHeld site = true :=
      Bool.eq_false_iff.mp unheld
    simp only [advance, activity_set onBoard]
    refine (if_neg within).trans ((if_neg able).trans ?_)
    simp only [lock_setActivity, setActivity_setActivity]
    rfl
  rw [settle_advance rfl taken, List.append_nil]
  apply settle_recording <;> assumption

theorem settle_locking_outside (outside : ¬ shop.Contains site) (fuel : Nat) :
    settle worker (fuel + 1) { shop := shop.setActivity worker (.locking site), events } =
      { shop, events, fault := some (.outOfBounds (shop.room site.pool) site.resource.index) } := by
  have beyond : shop.room site.pool ≤ site.resource.index := Nat.le_of_not_lt outside
  have taken : (shop.setActivity worker (.locking site)).advance worker = some {
      shop, fault := some (.outOfBounds (shop.room site.pool) site.resource.index) } := by
    simp only [advance, activity_set onBoard, setActivity_setActivity, setActivity_idle idle]
    exact if_pos beyond
  rw [settle_advance rfl taken, List.append_nil]
  exact settle_failed rfl fuel

end Rest

theorem resume_free (onBoard : shop.OnBoard worker) (locking : shop.activity worker = .locking site)
    (inside : shop.Contains site) (unheld : shop.isHeld site = false) :
    shop.resume worker =
      { shop := ((shop.lock worker site).1.rewrite worker fun record =>
          (record.note site.resource).settle).setActivity worker .idle
        events := [slotEvent "Acquired resource" worker site.resource] } := by
  have paused : shop = (shop.setActivity worker .idle).setActivity worker (.locking site) := by
    rw [setActivity_setActivity, ← locking, setActivity_self]
  have frame := frame_setActivity shop worker .idle
  unfold resume
  conv_lhs => rw [paused]
  refine (settle_locking ?_ ?_ ?_ ?_ 1).trans ?_
  · exact frame.onBoard.mpr onBoard
  · exact activity_set onBoard .idle
  · exact inside
  · exact unheld
  · rfl

section Outcomes

variable (found : shop.board.record? worker = some record)

include found

theorem acquire_full (full : record.second.isSome = true) (site : Site) :
    shop.acquire worker site = { shop, fault := some (.alreadyHoldsTwo worker) } := by
  obtain ⟨resource, second⟩ := Option.isSome_iff_exists.mp full
  simp only [acquire, beginAcquire, found, second]
  exact settle_failed rfl operationLength

theorem release_unrecorded (second : record.second ≠ cellOf guard.site.resource)
    (first : record.first ≠ cellOf guard.site.resource) :
    shop.release worker guard =
      { shop := shop.free guard
        fault := some (.neverRecorded worker guard.site.resource record.first) } := by
  simp only [release, beginRelease, found, second, first, if_false]
  exact settle_failed rfl operationLength

variable (onBoard : shop.OnBoard worker) (idle : shop.activity worker = .idle)

include onBoard idle

theorem acquire_outside (empty : record.second = none) (outside : ¬ shop.Contains site) :
    shop.acquire worker site =
      { shop := shop.rewrite worker (·.publish site.resource)
        events := [slotEvent "Waiting for resource" worker site.resource]
        fault := some (.outOfBounds (shop.room site.pool) site.resource.index) } := by
  simp only [acquire, beginAcquire, found, empty]
  apply settle_locking_outside <;> assumption

theorem acquire_free (empty : record.second = none) (inside : shop.Contains site)
    (unheld : shop.isHeld site = false) :
    shop.acquire worker site =
      { shop := (shop.lock worker site).1.rewrite worker fun record =>
          ((record.publish site.resource).note site.resource).settle
        events := [slotEvent "Waiting for resource" worker site.resource,
          slotEvent "Acquired resource" worker site.resource] } := by
  simp only [acquire, beginAcquire, found, empty]
  refine (settle_locking ?_ ?_ ?_ ?_ 1).trans ?_
  · exact onBoard
  · exact idle
  · exact inside
  · exact unheld
  · simp only [lock, rewrite, Board.update_update]
    rfl

omit idle in
theorem acquire_held (empty : record.second = none) (held : shop.isHeld site = true) :
    shop.acquire worker site =
      { shop := (shop.rewrite worker (·.publish site.resource)).setActivity worker (.locking site)
        events := [slotEvent "Waiting for resource" worker site.resource] } := by
  simp only [acquire, beginAcquire, found, empty]
  apply settle_stuck
  apply advance_of_held
  · exact activity_set onBoard (.locking site)
  · exact held

/-- The second cell is looked at first, so that of two equal cells it is the one emptied. -/
theorem release_second (second : record.second = cellOf guard.site.resource) :
    shop.release worker guard =
      { shop := (shop.free guard).rewrite worker Record.clearSecond
        events := [slotEvent "Released resource" worker guard.site.resource] } := by
  simp only [release, beginRelease, found, second, if_true]
  apply settle_unlocking <;> assumption

theorem release_first (second : record.second ≠ cellOf guard.site.resource)
    (first : record.first = cellOf guard.site.resource) :
    shop.release worker guard =
      { shop := (shop.free guard).rewrite worker fun record => record.moveUp.clearSecond
        events := [slotEvent "Released resource" worker guard.site.resource] } := by
  simp only [release, beginRelease, found, second, first, if_true, if_false]
  refine (settle_shifting ?_ ?_ 2).trans ?_
  · exact onBoard
  · exact idle
  · change Step.mk (((shop.free guard).rewrite worker _).rewrite worker _) _ _ = _
    rw [rewrite_rewrite]
    rfl

end Outcomes

end Workshop

end Contention

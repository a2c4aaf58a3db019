import Contention.Proofs.Workshop.Knots

namespace Contention

/-! Lock calls for resources that there are not.  They are announced and then fail, and
nothing ever withdraws the announcement.  Since no record shows a resource that there
is not, such announcements do not count; without them the workshop goes on by the
rules. -/

variable {size : Nat}

/-- The record without the announcement of a resource that there is not, if there are
`size`. -/
def Record.mend (size : Nat) (record : Record) : Record :=
  { record with awaiting := record.awaiting.filter fun resource => decide (resource.index < size) }

/-- A lock call for a resource that there is not does nothing but fail. -/
def Activity.mend (size : Nat) : Activity → Activity
  | .locking place => if place.resource.index < size then .locking place else .idle
  | activity => activity

theorem Record.mend_note (record : Record) (resource : Resource) :
    (record.note resource).mend size = (record.mend size).note resource := by
  unfold note mend
  cases record.first <;> rfl

theorem Record.mend_publish (record : Record) {resource : Resource} (inside : resource.index < size)
    (fits : size ≤ wordMax) :
    (record.publish resource).mend size = (record.mend size).publish resource := by
  unfold publish mend
  rw [cellOf_eq_some (Nat.lt_of_lt_of_le inside fits)]
  simp [inside]

theorem Record.mend_publish_outside (record : Record) {resource : Resource}
    (outside : ¬ resource.index < size) :
    (record.publish resource).mend size = (record.mend size).settle := by
  unfold publish mend settle cellOf
  split <;> simp [Nat.le_of_not_lt outside]

namespace Workshop

def mend (size : Nat) (shop : Workshop) : Workshop :=
  { shop with
    board := { records := shop.board.records.map (Record.mend size) }
    activities := shop.activities.map (Activity.mend size) }

variable {shop next : Workshop} {worker : Worker} {place : Site} {guard : Guard} {now : Instant}

theorem activity_mend (size : Nat) (shop : Workshop) (worker : Worker) :
    (shop.mend size).activity worker = (shop.activity worker).mend size := by
  simp only [activity, mend, List.getElem?_map]
  cases shop.activities[worker.index]? <;> rfl

theorem record?_mend (size : Nat) (shop : Workshop) (worker : Worker) :
    (shop.mend size).board.record? worker = (shop.board.record? worker).map (Record.mend size) := by
  simp only [Board.record?, mend, List.getElem?_map]

theorem mend_setActivity (size : Nat) (shop : Workshop) (worker : Worker) (activity : Activity) :
    (shop.setActivity worker activity).mend size =
      (shop.mend size).setActivity worker (activity.mend size) := by
  simp only [mend, setActivity, List.map_set]

theorem mend_rewrite (change : Record → Record)
    (commutes : ∀ record, (change record).mend size = change (record.mend size)) :
    (shop.rewrite worker change).mend size = (shop.mend size).rewrite worker change := by
  simp only [mend, rewrite, Board.update]
  congr 2
  refine List.ext_getElem? fun index => ?_
  simp only [List.getElem?_map, List.getElem?_modify]
  cases shop.board.records[index]? with
  | none => simp
  | some record => by_cases here : worker.index = index <;> simp [here, commutes]

theorem mend_rewrite_same (change : Record → Record)
    (same : ∀ record, shop.board.record? worker = some record →
      (change record).mend size = record.mend size) :
    (shop.rewrite worker change).mend size = shop.mend size := by
  simp only [mend, rewrite, Board.update]
  congr 2
  refine List.ext_getElem? fun index => ?_
  simp only [List.getElem?_map, List.getElem?_modify]
  cases found : shop.board.records[index]? with
  | none => simp
  | some record =>
      by_cases here : worker.index = index
      · have stored : shop.board.record? worker = some record := by rw [← found, ← here]; rfl
        simp [here, same record stored]
      · simp [here]

theorem Advanced.mend (advanced : shop.Advanced worker next)
    (room : ∀ pool, shop.room pool ≤ size) :
    (shop.mend size).Advanced worker (next.mend size) := by
  have busy := activity_mend size shop worker
  cases advanced with
  | lock place locking inside unheld =>
      have within : place.resource.index < size := Nat.lt_of_lt_of_le inside (room place.pool)
      rw [locking, Activity.mend, if_pos within] at busy
      rw [mend_setActivity]
      exact .lock place busy inside unheld
  | note guard recording =>
      rw [recording] at busy
      rw [mend_setActivity,
        mend_rewrite (·.note guard.site.resource) fun record => record.mend_note _]
      exact .note guard busy
  | settle guard settling =>
      rw [settling] at busy
      rw [mend_setActivity, mend_rewrite Record.settle fun _ => rfl]
      exact .settle guard busy
  | clear guard shifting =>
      rw [shifting] at busy
      rw [mend_setActivity, mend_rewrite Record.clearSecond fun _ => rfl]
      exact .clear guard busy
  | unlock guard unlocking =>
      rw [unlocking] at busy
      rw [mend_setActivity]
      exact .unlock guard busy

/-- A slot in the middle of something goes on by the rules, or it fails at a lock call
for a resource that there is not. -/
theorem mend_advance {step : Step} (room : ∀ pool, shop.room pool ≤ size)
    (inside : ∀ worker place, (shop.mend size).activity worker = .locking place →
      (shop.mend size).Contains place)
    (taken : shop.advance worker = some step) :
    (shop.mend size).Advanced worker (step.shop.mend size) ∨
      step.shop.mend size = shop.mend size := by
  by_cases within : ∀ place, shop.activity worker = .locking place → shop.Contains place
  · exact .inl ((advance_advanced taken within).2.mend room)
  · -- Mended, the slot has never made such a call and is idle.
    push Not at within
    obtain ⟨place, locking, outside⟩ := within
    have beyond : (shop.pools[place.pool]?.map Pool.size).getD 0 ≤ place.resource.index :=
      Nat.le_of_not_lt outside
    simp only [advance, locking] at taken
    rw [if_pos beyond] at taken
    cases taken
    have busy := activity_mend size shop worker
    rw [locking] at busy
    have idle : (shop.mend size).activity worker = .idle := by
      by_cases small : place.resource.index < size
      · rw [Activity.mend, if_pos small] at busy
        exact absurd (inside worker place busy) outside
      · rw [busy, Activity.mend, if_neg small]
    refine .inr ?_
    rw [mend_setActivity, Activity.mend, ← idle, setActivity_self]
    simp

theorem mend_beginAcquire (shop : Workshop) (worker : Worker) (fits : size ≤ wordMax)
    (within : place.resource.index < size) :
    (shop.beginAcquire worker place).shop.mend size =
      ((shop.mend size).beginAcquire worker place).shop := by
  have published : (shop.rewrite worker (·.publish place.resource)).mend size =
      (shop.mend size).rewrite worker (·.publish place.resource) :=
    mend_rewrite _ fun record => record.mend_publish within fits
  unfold beginAcquire
  rw [record?_mend]
  cases shop.board.record? worker with
  | none => rfl
  | some record =>
      simp only [Option.map_some]
      cases second : record.second with
      | some other => simp only [Record.mend, second]
      | none =>
          simp only [Record.mend, second]
          rw [mend_setActivity, published, Activity.mend, if_pos within]

theorem mend_beginAcquire_outside (truthful : (shop.mend size).Truthful worker)
    (idle : (shop.mend size).activity worker = .idle) (outside : ¬ place.resource.index < size) :
    (shop.beginAcquire worker place).shop.mend size = shop.mend size := by
  obtain ⟨mended, shown, stored, accurate⟩ := truthful
  rw [idle] at accurate
  rw [record?_mend] at stored
  obtain ⟨record, found, rfl⟩ := Option.map_eq_some_iff.mp stored
  unfold beginAcquire
  rw [found]
  cases second : record.second with
  | some other => simp only [second]
  | none =>
      simp only [second]
      rw [mend_setActivity, mend_rewrite_same]
      · rw [Activity.mend, if_neg outside, ← idle, setActivity_self]
      · intro same again
        cases found.symm.trans again
        rw [Record.mend_publish_outside record outside]
        have silent : (record.mend size).awaiting = none := accurate.awaiting
        unfold Record.settle
        rw [← silent]

theorem mend_beginRelease (size : Nat) (shop : Workshop) (worker : Worker) (guard : Guard) :
    (shop.beginRelease worker guard).shop.mend size =
      ((shop.mend size).beginRelease worker guard).shop := by
  unfold beginRelease
  rw [record?_mend]
  cases shop.board.record? worker with
  | none => rfl
  | some record =>
      simp only [Option.map_some, Record.mend]
      split
      · rw [mend_setActivity, mend_rewrite Record.clearSecond fun _ => rfl]
        rfl
      · split
        · rw [mend_setActivity, mend_rewrite Record.moveUp fun _ => rfl]
          rfl
        · rfl

theorem names_mend (size : Nat) (shop : Workshop) (resource : Resource) (worker : Worker) :
    (shop.mend size).board.names resource worker = shop.board.names resource worker := by
  unfold Board.names
  rw [record?_mend]
  cases shop.board.record? worker <;> rfl

theorem awaitedBy_mend (size : Nat) (shop : Workshop) (now : Instant) (worker : Worker) :
    ((shop.mend size).graph now).awaitedBy worker =
      ((shop.graph now).awaitedBy worker).filter
        fun resource => decide (resource.index < size) := by
  rw [awaitedBy_eq, awaitedBy_eq, record?_mend]
  cases shop.board.record? worker <;> rfl

theorem holder_mend (size : Nat) (shop : Workshop) (now : Instant) (resource : Resource) :
    ((shop.mend size).graph now).holder resource = (shop.graph now).holder resource := by
  have same : (shop.mend size).board.size = shop.board.size := List.length_map _
  rw [holder_eq, holder_eq, same]
  congr 1
  exact funext fun worker => names_mend size shop resource worker

theorem blocker_mend
    (inside : ∀ resource worker, shop.board.names resource worker = true → resource.index < size) :
    ((shop.mend size).graph now).blocker worker = (shop.graph now).blocker worker := by
  unfold WaitGraph.blocker
  rw [awaitedBy_mend]
  cases (shop.graph now).awaitedBy worker with
  | none => rfl
  | some resource =>
      by_cases within : resource.index < size
      · simp only [Option.filter, within, decide_true, if_true, holder_mend]
      · have unheld : (shop.graph now).holder resource = none := by
          by_contra held
          obtain ⟨other, found⟩ := Option.ne_none_iff_exists'.mp held
          exact within (inside resource other (names_of_holder found))
        simp [Option.filter, within, unheld]

end Workshop

end Contention

import Contention.Proofs.WaitGraph.Edges
import Contention.Proofs.Workshop.Ordering
import Contention.Proofs.Workshop.Permanence

namespace Contention

/-! The graph that is diagnosed is the real one.  Slots of one pool acquire and release in
whatever order they like.  An acquire may fail, which leaves its announcement on the
record, and a worker may ask for what it holds itself.  Main statement: between operations
the wait-for edges are exactly the waits of blocked workers for the locks of others. -/

open Contention.System (site)

namespace Workshop

variable {shop next : Workshop} {worker other : Worker} {place : Site} {guard : Guard}
  {now : Instant}

def WaitsOn (shop : Workshop) (worker other : Worker) : Prop :=
  ∃ place, shop.activity worker = .locking place ∧ shop.Holds other place ∧ other ≠ worker

instance (shop : Workshop) (worker other : Worker) : Decidable (shop.WaitsOn worker other) :=
  match busy : shop.activity worker with
  | .locking place =>
      decidable_of_iff (shop.Holds other place ∧ other ≠ worker) (by simp [WaitsOn, busy])
  | .idle | .recording _ | .settling _ | .shifting _ | .unlocking _ =>
      .isFalse (by simp [WaitsOn, busy])

/-- One operation of a slot that asks for resources as it likes, does nothing while it is
blocked, and releases its own guards. -/
inductive Attempt (shop : Workshop) : Workshop → Prop
  /-- The resource may be one that there is not, or one too many, or the worker's own. -/
  | acquire (worker : Worker) (resource : Resource) (onBoard : shop.OnBoard worker)
      (idle : shop.isIdle worker = true) :
      Attempt shop (shop.acquire worker (site resource)).shop
  | resume (worker : Worker) (place : Site) (blocked : shop.activity worker = .locking place)
      (unheld : shop.isHeld place = false) : Attempt shop (shop.resume worker).shop
  | release (worker : Worker) (guard : Guard) (onBoard : shop.OnBoard worker)
      (idle : shop.isIdle worker = true) (own : guard ∈ shop.guardsOf worker) :
      Attempt shop (shop.release worker guard).shop

section Rest

theorem activity_setActivity_other {middle : Workshop} (activity : Activity)
    (same : middle.activities = shop.activities) (different : other ≠ worker) :
    (middle.setActivity worker activity).activity other = shop.activity other := by
  rw [(frame_setActivity middle worker activity).activity other different]
  unfold Workshop.activity
  rw [same]

theorem beginAcquire_other (different : other ≠ worker) :
    (shop.beginAcquire worker place).shop.activity other = shop.activity other := by
  unfold beginAcquire
  split
  · rfl
  · split
    · rfl
    · exact activity_setActivity_other _ rfl different

theorem beginRelease_other (different : other ≠ worker) :
    (shop.beginRelease worker guard).shop.activity other = shop.activity other := by
  unfold beginRelease
  split
  · rfl
  · simp only
    split
    · exact activity_setActivity_other _ rfl different
    · split
      · exact activity_setActivity_other _ rfl different
      · rfl

theorem advance_other {step : Step} (taken : shop.advance worker = some step)
    (different : other ≠ worker) : step.shop.activity other = shop.activity other := by
  unfold advance at taken
  split at taken
  · contradiction
  · simp only at taken
    split at taken
    · cases taken
      exact activity_setActivity_other _ rfl different
    · split at taken
      · contradiction
      · cases taken
        exact activity_setActivity_other _ rfl different
  all_goals
    cases taken
    exact activity_setActivity_other _ rfl different

theorem settle_other (different : other ≠ worker) (fuel : Nat) (step : Step) :
    (settle worker fuel step).shop.activity other = step.shop.activity other := by
  have reached : Relation.ReflTransGen
      (fun shop next : Workshop => next.activity other = shop.activity other)
      step.shop (settle worker fuel step).shop :=
    settle_reaches (fun _ _ taken => advance_other taken different) fuel step
  generalize (settle worker fuel step).shop = last at reached
  induction reached with
  | refl => rfl
  | tail _ same ih => exact same.trans ih

/-- A step of a slot that is in the middle of something either fails, after which the slot
is idle, or brings it closer to the end. -/
theorem advance_leads {step : Step} (taken : shop.advance worker = some step) :
    step.fault = none ∧ Leads (shop.activity worker) (step.shop.activity worker) ∨
      step.shop.activity worker = .idle := by
  by_cases inside : ∀ place, shop.activity worker = .locking place → shop.Contains place
  · obtain ⟨clean, advanced⟩ := advance_advanced taken inside
    exact .inl ⟨clean, advanced.leads⟩
  · push Not at inside
    obtain ⟨place, locking, outside⟩ := inside
    have beyond : (shop.pools[place.pool]?.map Pool.size).getD 0 ≤ place.resource.index :=
      Nat.le_of_not_lt outside
    simp only [advance, locking] at taken
    rw [if_pos beyond] at taken
    cases taken
    exact .inr (activity_after (.refl shop worker) (onBoard_of_activity locking (by simp)))

theorem settle_rests (fuel : Nat) {step : Step}
    (failed : step.fault.isSome = true → (step.shop.activity worker).Resting)
    (enough : (step.shop.activity worker).remaining ≤ fuel) :
    ((settle worker fuel step).shop.activity worker).Resting := by
  induction fuel generalizing step with
  | zero =>
      change (step.shop.activity worker).Resting
      cases busy : step.shop.activity worker with
      | idle => trivial
      | _ =>
          rw [busy] at enough
          contradiction
  | succ fuel ih =>
      unfold settle
      split
      · rename_i fault failure
        exact failed (by rw [failure]; rfl)
      · split
        · rename_i stuck
          rcases advance_eq_none stuck with idle | ⟨place, locking, _⟩
          · rw [idle]
            trivial
          · rw [locking]
            trivial
        · rename_i next taken
          rcases advance_leads taken with ⟨clean, leads⟩ | idle
          · have shorter := leads.remaining
            refine ih (fun failure => ?_) ?_
            · rw [clean] at failure
              contradiction
            · simp only
              omega
          · refine ih (fun _ => ?_) ?_
            · rw [idle]
              trivial
            · rw [idle]
              exact Nat.zero_le fuel

theorem beginAcquire_failed (failed : (shop.beginAcquire worker place).fault.isSome = true) :
    (shop.beginAcquire worker place).shop.activities = shop.activities := by
  cases found : shop.board.record? worker with
  | none => simp only [beginAcquire, found]
  | some record =>
      cases second : record.second with
      | some resource => simp only [beginAcquire, found, second]
      | none => simp [beginAcquire, found, second] at failed

theorem beginRelease_failed (failed : (shop.beginRelease worker guard).fault.isSome = true) :
    (shop.beginRelease worker guard).shop.activities = shop.activities := by
  cases found : shop.board.record? worker with
  | none => simp only [beginRelease, found]
  | some record =>
      by_cases second : record.second = cellOf guard.site.resource
      · simp [beginRelease, found, second] at failed
      · by_cases first : record.first = cellOf guard.site.resource
        · simp [beginRelease, found, second, first] at failed
        · simp only [beginRelease, found, second, first, if_false]
          rfl

theorem resting_of_idle {middle : Workshop} (same : middle.activities = shop.activities)
    (idle : shop.isIdle worker = true) : (middle.activity worker).Resting := by
  unfold Workshop.activity
  rw [same]
  change (shop.activity worker).Resting
  rw [isIdle_iff.mp idle]
  trivial

theorem Attempt.rests (attempt : shop.Attempt next)
    (rests : ∀ worker, (shop.activity worker).Resting) (other : Worker) :
    (next.activity other).Resting := by
  cases attempt with
  | acquire worker resource onBoard idle =>
      unfold Workshop.acquire
      by_cases same : other = worker
      · subst same
        exact settle_rests operationLength
          (fun failed => resting_of_idle (beginAcquire_failed failed) idle)
          (Activity.remaining_le _)
      · rw [settle_other same, beginAcquire_other same]
        exact rests other
  | resume worker place blocked =>
      unfold Workshop.resume
      by_cases same : other = worker
      · subst same
        exact settle_rests operationLength nofun (Activity.remaining_le _)
      · rw [settle_other same]
        exact rests other
  | release worker guard onBoard idle =>
      unfold Workshop.release
      by_cases same : other = worker
      · subst same
        exact settle_rests operationLength
          (fun failed => resting_of_idle (beginRelease_failed failed) idle)
          (Activity.remaining_le _)
      · rw [settle_other same, beginRelease_other same]
        exact rests other

end Rest

/-- The slots as those of a crew that nobody leaves. -/
def crew (shop : Workshop) : Crew where
  shop := shop
  signals := {}
  gone _ := False

theorem Attempt.acts (attempt : shop.Attempt next) :
    Relation.ReflTransGen Crew.Act shop.crew next.crew := by
  cases attempt with
  | acquire worker resource onBoard idle =>
      exact Crew.acts_acquire worker resource ⟨onBoard, id, idle⟩
  | resume worker place blocked => exact shop.crew.acts_settle worker operationLength { shop }
  | release worker guard onBoard idle own =>
      exact .head (.release worker guard ⟨onBoard, id, idle⟩ own)
        (shop.crew.acts_settle worker operationLength (shop.beginRelease worker guard))

theorem rests_of_attempts {workers resources : Nat} {epoch : Instant}
    (reached : Relation.ReflTransGen Attempt (fresh workers [resources] epoch) shop)
    (worker : Worker) : (shop.activity worker).Resting := by
  induction reached generalizing worker with
  | refl =>
      rw [activity_fresh]
      trivial
  | tail _ attempt ih => exact attempt.rests ih worker

theorem lawful_of_attempts {workers resources : Nat} {epoch : Instant} (fits : resources ≤ wordMax)
    (reached : Relation.ReflTransGen Attempt (fresh workers [resources] epoch) shop) :
    shop.crew.Lawful resources := by
  have acts : Relation.ReflTransGen Crew.Act (Crew.fresh resources workers epoch) shop.crew :=
    reached.lift' crew fun _ _ attempt => attempt.acts
  exact Crew.lawful_of_acts fits acts

theorem resting_mend {size : Nat} (rests : (shop.activity worker).Resting) :
    ((shop.mend size).activity worker).Resting := by
  rw [activity_mend]
  cases busy : shop.activity worker with
  | idle => trivial
  | locking place =>
      rw [Activity.mend]
      split <;> trivial
  | _ =>
      rw [busy] at rests
      contradiction

end Workshop

namespace Crew

open Workshop (Holds WaitsOn)

variable {crew : Crew} {size : Nat} {worker other : Worker} {now : Instant}

theorem Lawful.waitsOn_of_blocker (lawful : crew.Lawful size)
    (present : ∀ worker, ¬ crew.gone worker)
    (waits : (crew.shop.graph now).blocker worker = some other) :
    crew.shop.WaitsOn worker other := by
  rw [← lawful.blocker_mend] at waits
  obtain ⟨resource, _, holder, apart⟩ := WaitGraph.blocker_eq_some_iff.mp waits
  obtain ⟨record, found, _⟩ := Board.names_iff.mp (Workshop.names_of_holder holder)
  have honest := lawful.present other (lawful.orderly.onBoard found) (present other)
  obtain ⟨asked, _, locking, guard, own, same⟩ :=
    (lawful.reliable.truthful_of_blocker waits).blocked honest lawful.orderly lawful.pool waits
  have holds := lawful.orderly.guarded.holds own
  exact ⟨site asked, (lawful.locking locking).1, same ▸ holds, apart⟩

theorem Lawful.blocker_of_waitsOn (lawful : crew.Lawful size)
    (present : ∀ worker, ¬ crew.gone worker) (rests : (crew.shop.activity other).Resting)
    (waits : crew.shop.WaitsOn worker other) :
    (crew.shop.graph now).blocker worker = some other := by
  obtain ⟨place, locking, ⟨_, guard, own, rfl⟩, apart⟩ := waits
  have inside := lawful.orderly.contains (Workshop.mem_guardsOf.mp own).1
  have honest := lawful.present other (lawful.orderly.onBoard_of_guard own) (present other)
  have named := honest.names_of_guard (Workshop.resting_mend rests) own
  have holder : ((crew.shop.mend size).graph now).holder guard.site.resource = some other := by
    refine Workshop.holder_eq_some named fun someone claimed => ?_
    obtain ⟨record, found, _⟩ := Board.names_iff.mp claimed
    obtain ⟨mine, mineOwn, same⟩ :=
      (lawful.present someone (lawful.orderly.onBoard found) (present someone)).guard_of_named
        lawful.orderly lawful.pool claimed
    exact lawful.orderly.guarded.owner_eq mineOwn own (same.trans (lawful.pool _ inside).symm)
  have still : (crew.shop.mend size).activity worker = .locking guard.site := by
    rw [Workshop.activity_mend, locking, Activity.mend, if_pos (lawful.contains_iff.mp inside).2]
  obtain ⟨record, found, awaiting⟩ := lawful.reliable.awaiting_of_locking still
  have awaited : ((crew.shop.mend size).graph now).awaitedBy worker =
      some guard.site.resource := by
    rw [Workshop.awaitedBy_eq, found, Option.bind_some, awaiting]
  rw [← lawful.blocker_mend]
  exact WaitGraph.blocker_eq_some_iff.mpr ⟨_, awaited, holder, apart⟩

end Crew

namespace Workshop

variable {shop : Workshop}

/-- After any attempts, be they successful or not, the graph of the records shows a worker
to wait for another exactly if it is blocked on a lock of the other, and it has as many
edges as there are workers blocked on locks of others. -/
theorem diagnosis_exact {workers resources : Nat} {epoch : Instant} (fits : resources ≤ wordMax)
    (reached : Relation.ReflTransGen Attempt (fresh workers [resources] epoch) shop)
    (now : Instant) :
    (∀ worker other,
        (shop.graph now).blocker worker = some other ↔ shop.WaitsOn worker other) ∧
      (shop.graph now).edges.length = (team shop.board.size).countP fun worker =>
        decide (∃ other ∈ team shop.board.size, shop.WaitsOn worker other) := by
  have lawful := lawful_of_attempts fits reached
  have exact : ∀ worker other,
      (shop.graph now).blocker worker = some other ↔ shop.WaitsOn worker other :=
    fun worker other => ⟨lawful.waitsOn_of_blocker fun _ => id,
      lawful.blocker_of_waitsOn (fun _ => id) (rests_of_attempts reached other)⟩
  have onBoard : ∀ worker other, (shop.graph now).blocker worker = some other →
      worker ∈ team shop.board.size ∧ other ∈ team shop.board.size := by
    intro worker other waits
    obtain ⟨resource, awaited, holder, _⟩ := WaitGraph.blocker_eq_some_iff.mp waits
    rw [awaitedBy_eq] at awaited
    obtain ⟨record, found, _⟩ := Option.bind_eq_some_iff.mp awaited
    obtain ⟨theirs, known, _⟩ := Board.names_iff.mp (names_of_holder holder)
    exact ⟨mem_team.mpr (List.getElem?_eq_some_iff.mp found).1,
      mem_team.mpr (List.getElem?_eq_some_iff.mp known).1⟩
  refine ⟨exact, ?_⟩
  rw [WaitGraph.edges_length (team_nodup _)
    fun worker other waits => (onBoard worker other waits).1]
  refine List.countP_congr fun worker _ => ?_
  rw [Option.isSome_iff_exists, decide_eq_true_eq]
  constructor
  · rintro ⟨other, waits⟩
    exact ⟨other, (onBoard worker other waits).2, (exact worker other).mp waits⟩
  · rintro ⟨other, _, waits⟩
    exact ⟨other, (exact worker other).mpr waits⟩

/-- A worker with two resources fails to get a third, one waits for itself, and one that has
failed to get what there is not, and still shows it, is then blocked on the first worker's. -/
theorem diagnosis_exact_after_failures :
    ∃ shop, Relation.ReflTransGen Attempt (fresh 3 [3] .origin) shop ∧
      shop.isIdle ⟨0⟩ = true ∧ shop.activity ⟨1⟩ = .locking (site ⟨2⟩) ∧
      shop.Holds ⟨1⟩ (site ⟨2⟩) ∧ (shop.graph .origin).blocker ⟨1⟩ = none ∧
      (shop.graph .origin).blocker ⟨2⟩ = some ⟨0⟩ ∧ (shop.graph .origin).edges.length = 1 := by
  have first : Relation.ReflTransGen Attempt (fresh 3 [3] .origin) _ :=
    .single (.acquire ⟨0⟩ ⟨0⟩ (by decide) (by decide))
  have second := first.tail (.acquire ⟨0⟩ ⟨1⟩ (by decide) (by decide))
  have third := second.tail (.acquire ⟨0⟩ ⟨2⟩ (by decide) (by decide))
  have own := third.tail (.acquire ⟨1⟩ ⟨2⟩ (by decide) (by decide))
  have again := own.tail (.acquire ⟨1⟩ ⟨2⟩ (by decide) (by decide))
  have failed := again.tail (.acquire ⟨2⟩ ⟨7⟩ (by decide) (by decide))
  have blocked := failed.tail (.acquire ⟨2⟩ ⟨0⟩ (by decide) (by decide))
  obtain ⟨edges, count⟩ := diagnosis_exact (by decide) blocked .origin
  exact ⟨_, blocked, by decide, by decide, by decide, by decide,
    (edges ⟨2⟩ ⟨0⟩).mpr (by decide), count.trans (by decide)⟩

end Workshop

end Contention

import Contention.Proofs.Workshop.Knots
import Contention.Proofs.Workshop.Operations

namespace Contention.Workshop

/-! The order of writes.  Any number of slots go on at once, one write to a record or one
lock or unlock at a time.  Main statement: at no moment does a record claim a resource
whose lock its worker does not have, and no slot waits for a lock unannounced. -/

open Contention.System (site)

variable {shop next : Workshop} {worker other : Worker} {resource : Resource} {guard : Guard}
  {place : Site} {record : Record}

def Holds (shop : Workshop) (worker : Worker) (place : Site) : Prop :=
  shop.isHeld place = true ∧ ∃ guard ∈ shop.guardsOf worker, guard.site = place

instance (shop : Workshop) (worker : Worker) (place : Site) : Decidable (shop.Holds worker place) :=
  inferInstanceAs (Decidable (_ ∧ _))

theorem Guarded.holds (guarded : shop.Guarded) (own : guard ∈ shop.guardsOf worker) :
    shop.Holds worker guard.site :=
  ⟨(guarded.held guard.site).mpr ⟨guard, (mem_guardsOf.mp own).1, rfl⟩, guard, own, rfl⟩

theorem Guarded.holder_unique (guarded : shop.Guarded) (mine : shop.Holds worker place)
    (theirs : shop.Holds other place) : worker = other := by
  obtain ⟨_, left, leftOwn, leftSame⟩ := mine
  obtain ⟨_, right, rightOwn, rightSame⟩ := theirs
  exact guarded.owner_eq leftOwn rightOwn (leftSame.trans rightSame.symm)

/-- The next write to a record, or the next lock or unlock, of one of the slots. -/
inductive Stride (shop : Workshop) : Workshop → Prop
  | acquire (worker : Worker) (place : Site) (onBoard : shop.OnBoard worker)
      (idle : shop.isIdle worker = true) (inside : shop.Contains place) :
      Stride shop (shop.beginAcquire worker place).shop
  | release (worker : Worker) (guard : Guard) (idle : shop.isIdle worker = true)
      (own : guard ∈ shop.guardsOf worker) : Stride shop (shop.beginRelease worker guard).shop
  | advance (worker : Worker) (step : Step) (taken : shop.advance worker = some step) :
      Stride shop step.shop

structure Faithful (shop : Workshop) : Prop where
  orderly : shop.Orderly
  truthful : ∀ worker, shop.OnBoard worker → shop.Truthful worker

theorem Faithful.of_sound (faithful : shop.Faithful) (sound : Sound shop next worker) :
    next.Faithful where
  orderly := sound.orderly
  truthful := by
    intro other onBoard
    by_cases same : other = worker
    · exact same ▸ sound.truthful
    · exact (faithful.truthful other (sound.frame.onBoard.mp onBoard)).framed sound.frame same

theorem Stride.sound (stride : shop.Stride next) (faithful : shop.Faithful) :
    ∃ mover, Sound shop next mover := by
  have orderly := faithful.orderly
  cases stride with
  | acquire worker place onBoard idle inside =>
      have truthful := faithful.truthful worker onBoard
      have still := isIdle_iff.mp idle
      by_cases few : (shop.guardsOf worker).length < 2
      · exact ⟨worker, (beginAcquire_sound orderly truthful still few inside).2.2⟩
      · rw [beginAcquire_full place truthful still few]
        exact ⟨worker, .refl orderly truthful⟩
  | release worker guard idle own =>
      obtain ⟨live, rfl⟩ := mem_guardsOf.mp own
      have truthful := faithful.truthful guard.taker (orderly.takers guard live)
      exact ⟨_, (beginRelease_sound orderly truthful (isIdle_iff.mp idle) own).2.1⟩
  | advance worker step taken =>
      obtain ⟨_, advanced⟩ := advance_advanced taken (orderly.inside worker)
      exact ⟨worker, advanced.sound orderly (faithful.truthful worker advanced.onBoard)⟩

theorem Operation.strides (operation : shop.Operation next) :
    Relation.ReflTransGen Stride shop next := by
  have onward : ∀ (worker : Worker) (shop : Workshop) (step : Step),
      shop.advance worker = some step → shop.Stride step.shop :=
    fun worker _ step taken => .advance worker step taken
  cases operation with
  | acquire worker place onBoard idle inside =>
      exact .head (.acquire worker place onBoard idle inside) (settle_reaches (onward worker) _ _)
  | resume worker place blocked => exact settle_reaches (onward worker) _ { shop }
  | release worker guard idle own =>
      exact .head (.release worker guard idle own) (settle_reaches (onward worker) _ _)

theorem faithful_of_strides {workers : Nat} {sizes : List Nat} {epoch : Instant}
    (fits : ∀ size ∈ sizes, size ≤ wordMax)
    (reached : Relation.ReflTransGen Stride (fresh workers sizes epoch) shop) :
    shop.Faithful ∧ ∀ pool, shop.room pool = (fresh workers sizes epoch).room pool := by
  induction reached with
  | refl =>
      have settled := settled_fresh workers sizes epoch fits
      exact ⟨⟨settled.orderly, settled.truthful⟩, fun _ => rfl⟩
  | tail _ stride ih =>
      obtain ⟨faithful, room⟩ := ih
      obtain ⟨mover, sound⟩ := stride.sound faithful
      exact ⟨faithful.of_sound sound, fun pool => (sound.frame.room pool).trans (room pool)⟩

theorem onePool_of_strides {workers resources : Nat} {epoch : Instant}
    (room : ∀ pool, shop.room pool = (fresh workers [resources] epoch).room pool) :
    shop.OnePool :=
  onePool_of_room fun pool => (room pool).trans (room_fresh workers resources epoch pool)

theorem Truthful.compact (truthful : shop.Truthful worker)
    (found : shop.board.record? worker = some record) (second : record.second.isSome = true) :
    record.first.isSome = true := by
  obtain ⟨shown, accurate⟩ := truthful.accurate found
  rw [accurate.second, Option.isSome_map, isSome_getElem?] at second
  rw [accurate.first, Option.isSome_map, isSome_getElem?]
  exact Nat.zero_lt_of_lt second

structure WriteOrdered (shop : Workshop) : Prop where
  named : ∀ worker record resource, shop.board.record? worker = some record →
    record.first = some resource ∨ record.second = some resource →
    shop.Holds worker (site resource)
  exclusive : ∀ worker other place, shop.Holds worker place → shop.Holds other place →
    worker = other
  alone : ∀ worker other resource, shop.board.names resource worker = true →
    shop.board.names resource other = true → worker = other
  /-- A worker shows the resource for which its lock call has not returned. -/
  announced : ∀ worker place, shop.activity worker = .locking place →
    ∃ record, shop.board.record? worker = some record ∧ record.awaiting = some place.resource
  compact : ∀ worker record, shop.board.record? worker = some record →
    record.second.isSome = true → record.first.isSome = true

theorem Faithful.writeOrdered (faithful : shop.Faithful) (pool : shop.OnePool) :
    shop.WriteOrdered := by
  have orderly := faithful.orderly
  have holds : ∀ worker resource, shop.board.names resource worker = true →
      shop.Holds worker (site resource) := by
    intro worker resource named
    obtain ⟨record, found, _⟩ := Board.names_iff.mp named
    obtain ⟨guard, own, same⟩ :=
      (faithful.truthful worker (orderly.onBoard found)).guard_of_named orderly pool named
    exact same ▸ orderly.guarded.holds own
  refine ⟨?_, ?_, ?_, ?_, ?_⟩
  · intro worker record resource found cells
    exact holds worker resource
      (Board.names_iff.mpr ⟨record, found, Holding.mem_ofCells.mpr cells⟩)
  · exact fun worker other place => orderly.guarded.holder_unique
  · intro worker other resource mine theirs
    exact orderly.guarded.holder_unique (holds worker resource mine) (holds other resource theirs)
  · intro worker place locking
    obtain ⟨record, shown, found, accurate⟩ :=
      faithful.truthful worker (onBoard_of_activity locking (by simp))
    rw [locking] at accurate
    exact ⟨record, found, accurate.awaiting⟩
  · intro worker record found
    exact (faithful.truthful worker (orderly.onBoard found)).compact found

/-- However the writes, locks and unlocks of the slots follow each other, also in the middle
of operations no record claims what its worker has not locked. -/
theorem writeOrdered_of_strides {workers resources : Nat} {epoch : Instant}
    (fits : resources ≤ wordMax)
    (reached : Relation.ReflTransGen Stride (fresh workers [resources] epoch) shop) :
    shop.WriteOrdered := by
  obtain ⟨faithful, room⟩ := faithful_of_strides (by simpa using fits) reached
  exact faithful.writeOrdered (onePool_of_strides room)

/-- One worker has locked both resources and is letting the first one go: its cells are
equal, and it still has the lock for which another worker waits. -/
theorem writeOrdered_while_moving_up :
    ∃ shop record, Relation.ReflTransGen Stride (fresh 2 [2] .origin) shop ∧ shop.WriteOrdered ∧
      shop.board.record? ⟨0⟩ = some record ∧ record.first = some ⟨1⟩ ∧
      record.second = some ⟨1⟩ ∧ shop.Holds ⟨0⟩ (site ⟨0⟩) ∧
      shop.activity ⟨1⟩ = .locking (site ⟨0⟩) := by
  have first : Relation.ReflTransGen Stride (fresh 2 [2] .origin) _ :=
    (Operation.acquire ⟨0⟩ (site ⟨0⟩) (by decide) (by decide) (by decide)).strides
  have second := first.trans
    (Operation.acquire ⟨0⟩ (site ⟨1⟩) (by decide) (by decide) (by decide)).strides
  have waited := second.tail (.acquire ⟨1⟩ (site ⟨0⟩) (by decide) (by decide) (by decide))
  have moved := waited.tail (.release ⟨0⟩ ⟨0, site ⟨0⟩, ⟨0⟩⟩ (by decide) (by decide))
  exact ⟨_, _, moved, writeOrdered_of_strides (by decide) moved, rfl, rfl, rfl, by decide, rfl⟩

end Contention.Workshop

import Contention.Proofs.WaitGraph.Loops
import Contention.Proofs.Workshop.Graph
import Contention.Proofs.Workshop.Steps
import Contention.Worker.Loop

namespace Contention.Workshop

/-! Circular waits and locks.  What the records of waiting workers say is so: on a loop
of the wait-for graph each worker is blocked on a resource of which the next one has
the guard.  Nobody outside the loop can change that. -/

open Contention.System (site)

variable {shop next : Workshop} {worker other mover : Worker} {resource : Resource} {now : Instant}
  {guard : Guard} {row : List Worker}

def OnePool (shop : Workshop) : Prop := ∀ place, shop.Contains place → place = site place.resource

theorem contains_iff_of_room {size : Nat} {place : Site}
    (room : ∀ pool, shop.room pool = if pool = 0 then size else 0) :
    shop.Contains place ↔ place.pool = 0 ∧ place.resource.index < size := by
  rw [Contains, room]
  split <;> simp_all

theorem onePool_of_room {size : Nat}
    (room : ∀ pool, shop.room pool = if pool = 0 then size else 0) : shop.OnePool := by
  rintro ⟨pool, resource⟩ inside
  obtain ⟨rfl, _⟩ := (contains_iff_of_room room).mp inside
  rfl

theorem Truthful.guard_of_named (truthful : shop.Truthful worker) (orderly : shop.Orderly)
    (pool : shop.OnePool) (named : shop.board.names resource worker = true) :
    ∃ guard ∈ shop.guardsOf worker, guard.site = site resource := by
  obtain ⟨record, found, held⟩ := Board.names_iff.mp named
  obtain ⟨shown, accurate⟩ := truthful.accurate found
  obtain ⟨guard, own, rfl⟩ := accurate.mem_held held
  exact ⟨guard, own, pool _ (orderly.contains (mem_guardsOf.mp own).1)⟩

theorem Truthful.names_of_guard (truthful : shop.Truthful worker)
    (rests : (shop.activity worker).Resting) (own : guard ∈ shop.guardsOf worker) :
    shop.board.names guard.site.resource worker = true := by
  obtain ⟨record, shown, found, accurate⟩ := truthful
  obtain ⟨rfl, still⟩ := accurate.shows.resting rests
  refine Board.names_iff.mpr ⟨record, found, ?_⟩
  rw [accurate.held_toList still]
  exact List.mem_map_of_mem own

/-- A worker announces a resource from before its lock call until after the resource
is on record. -/
theorem Truthful.announced (truthful : shop.Truthful worker) (orderly : shop.Orderly)
    (pool : shop.OnePool) (awaited : (shop.graph now).awaitedBy worker = some resource) :
    shop.activity worker = .locking (site resource) ∨
      ∃ guard ∈ shop.guardsOf worker, guard.site = site resource := by
  obtain ⟨record, shown, found, accurate⟩ := truthful
  rw [awaitedBy_eq, found, Option.bind_some, accurate.awaiting] at awaited
  have locked : ∀ guard, (shop.activity worker).guard? = some guard →
      guard ∈ shop.guardsOf worker ∧ guard.site = site guard.site.resource := by
    intro guard concerned
    have own := accurate.shows.guard_mem concerned
    exact ⟨own, pool _ (orderly.contains (mem_guardsOf.mp own).1)⟩
  cases busy : shop.activity worker with
  | locking place =>
      have same := pool _ (orderly.inside worker place busy)
      rw [busy] at awaited
      cases awaited
      exact .inl (congrArg Activity.locking same)
  | recording guard =>
      obtain ⟨own, same⟩ := locked guard (by rw [busy]; rfl)
      rw [busy] at awaited
      cases awaited
      exact .inr ⟨guard, own, same⟩
  | settling guard =>
      obtain ⟨own, same⟩ := locked guard (by rw [busy]; rfl)
      rw [busy] at awaited
      cases awaited
      exact .inr ⟨guard, own, same⟩
  | _ =>
      rw [busy] at awaited
      contradiction

/-- A slot whose worker has come to its end.  Its record stays as it was left. -/
structure Deserted (shop : Workshop) (worker : Worker) : Prop where
  idle : shop.activity worker = .idle
  silent : (shop.board.record? worker).bind (·.awaiting) = none
  inside : ∀ resource, shop.board.names resource worker = true → shop.Contains (site resource)

/-- In order, over one pool, and every slot is used by its rules or no more. -/
structure Reliable (shop : Workshop) : Prop where
  orderly : shop.Orderly
  pool : shop.OnePool
  slots : ∀ worker, shop.OnBoard worker → shop.Truthful worker ∨ shop.Deserted worker

theorem Truthful.deserted (truthful : shop.Truthful worker) (orderly : shop.Orderly)
    (pool : shop.OnePool) (idle : shop.activity worker = .idle) : shop.Deserted worker where
  idle := idle
  silent := by
    obtain ⟨record, shown, found, accurate⟩ := truthful
    rw [found, Option.bind_some, accurate.awaiting, idle]
    rfl
  inside := by
    intro resource named
    obtain ⟨guard, own, same⟩ := truthful.guard_of_named orderly pool named
    exact same ▸ orderly.contains (mem_guardsOf.mp own).1

theorem Deserted.framed (deserted : shop.Deserted other) (frame : Frame shop next worker)
    (different : other ≠ worker) : next.Deserted other where
  idle := (frame.activity other different).trans deserted.idle
  silent := by rw [frame.record? other different, deserted.silent]
  inside := by
    intro resource named
    unfold Board.names at named
    rw [frame.record? other different] at named
    exact frame.contains.mpr (deserted.inside resource named)

theorem Deserted.free (deserted : shop.Deserted worker) (orderly : shop.Orderly)
    (own : guard ∈ shop.guardsOf worker) : (shop.free guard).Deserted worker where
  idle := deserted.idle
  silent := deserted.silent
  inside resource named := (orderly.frame_free own).contains.mpr (deserted.inside resource named)

theorem Reliable.truthful_of_awaited (reliable : shop.Reliable)
    (awaited : (shop.graph now).awaitedBy worker = some resource) : shop.Truthful worker := by
  rw [awaitedBy_eq] at awaited
  obtain ⟨record, found, _⟩ := Option.bind_eq_some_iff.mp awaited
  rcases reliable.slots worker (reliable.orderly.onBoard found) with truthful | deserted
  · exact truthful
  · rw [deserted.silent] at awaited
    contradiction

theorem Reliable.awaiting_of_locking {place : Site} (reliable : shop.Reliable)
    (locking : shop.activity worker = .locking place) :
    ∃ record, shop.board.record? worker = some record ∧
      record.awaiting = some place.resource := by
  rcases reliable.slots worker (onBoard_of_activity locking (by simp)) with truthful | deserted
  · obtain ⟨record, shown, found, accurate⟩ := truthful
    rw [locking] at accurate
    exact ⟨record, found, accurate.awaiting⟩
  · rw [deserted.idle] at locking
    contradiction

theorem Truthful.blocked (truthful : shop.Truthful worker) (honest : shop.Truthful other)
    (orderly : shop.Orderly) (pool : shop.OnePool)
    (waits : (shop.graph now).blocker worker = some other) :
    ∃ resource, (shop.graph now).awaitedBy worker = some resource ∧
      shop.activity worker = .locking (site resource) ∧
      ∃ guard ∈ shop.guardsOf other, guard.site = site resource := by
  obtain ⟨resource, awaited, holder, apart⟩ := WaitGraph.blocker_eq_some_iff.mp waits
  obtain ⟨guard, own, same⟩ := honest.guard_of_named orderly pool (names_of_holder holder)
  refine ⟨resource, awaited, ?_, guard, own, same⟩
  rcases truthful.announced orderly pool awaited with locking | ⟨mine, mineOwn, mineSame⟩
  · exact locking
  · -- what the worker has locked itself another cannot have a guard for
    exact absurd (orderly.guarded.owner_eq own mineOwn (same.trans mineSame.symm)) apart

theorem Reliable.truthful_of_blocker (reliable : shop.Reliable)
    (waits : (shop.graph now).blocker worker = some other) : shop.Truthful worker := by
  obtain ⟨resource, awaited, _⟩ := WaitGraph.blocker_eq_some_iff.mp waits
  exact reliable.truthful_of_awaited awaited

/-- Nobody knows what a worker that has come to its end still has, but such a worker does
not wait itself. -/
theorem Reliable.blocked (reliable : shop.Reliable)
    (waits : (shop.graph now).blocker worker = some other)
    (onward : (shop.graph now).blocker other = some mover) :
    ∃ resource, (shop.graph now).awaitedBy worker = some resource ∧
      shop.activity worker = .locking (site resource) ∧
      ∃ guard ∈ shop.guardsOf other, guard.site = site resource :=
  (reliable.truthful_of_blocker waits).blocked (reliable.truthful_of_blocker onward)
    reliable.orderly reliable.pool waits

/-- A row of workers each of whom is blocked on a resource of which another of the row
has the guard. -/
def Knot (shop : Workshop) (row : List Worker) : Prop :=
  ∀ worker ∈ row, ∃ place, shop.activity worker = .locking place ∧
    ∃ other ∈ row, ∃ guard ∈ shop.guardsOf other, guard.site = place

theorem Reliable.knot (reliable : shop.Reliable) (isLoop : (shop.graph now).IsLoop row) :
    shop.Knot row := by
  intro worker member
  obtain ⟨other, otherMember, waits⟩ := isLoop.blocker_mem member
  obtain ⟨_, _, onward⟩ := isLoop.blocker_mem otherMember
  obtain ⟨resource, _, locking, guard, own, same⟩ := reliable.blocked waits onward
  exact ⟨site resource, locking, other, otherMember, guard, own, same⟩

theorem Knot.held (knot : shop.Knot row) (guarded : shop.Guarded) (member : worker ∈ row)
    {place : Site} (locking : shop.activity worker = .locking place) :
    shop.isHeld place = true := by
  obtain ⟨same, again, _, _, guard, own, held⟩ := knot worker member
  cases locking.symm.trans again
  exact (guarded.held place).mpr ⟨guard, (mem_guardsOf.mp own).1, held⟩

/-- Nobody outside a knot can undo it. -/
theorem Knot.framed (knot : shop.Knot row) (frame : Frame shop next mover)
    (outside : mover ∉ row) : next.Knot row := by
  have apart : ∀ worker ∈ row, worker ≠ mover := fun worker member same => outside (same ▸ member)
  intro worker member
  obtain ⟨place, locking, other, otherMember, guard, own, held⟩ := knot worker member
  refine ⟨place, ?_, other, otherMember, guard, ?_, held⟩
  · rw [frame.activity worker (apart worker member), locking]
  · rw [frame.guardsOf other (apart other otherMember)]
    exact own

theorem Truthful.not_named {owner : Worker} (truthful : shop.Truthful worker)
    (orderly : shop.Orderly) (pool : shop.OnePool) (own : guard ∈ shop.guardsOf owner)
    (same : guard.site = site resource) (apart : worker ≠ owner) :
    shop.board.names resource worker = false := by
  refine Bool.eq_false_iff.mpr fun named => apart ?_
  obtain ⟨mine, mineOwn, mineSame⟩ := truthful.guard_of_named orderly pool named
  exact orderly.guarded.owner_eq mineOwn own (mineSame.trans same.symm)

theorem Knot.blocker_framed (knot : shop.Knot row) (reliable : shop.Reliable)
    (sound : Sound shop next mover) (truthful : shop.Truthful mover) (outside : mover ∉ row)
    (member : worker ∈ row) :
    (next.graph now).blocker worker = (shop.graph now).blocker worker := by
  have frame := sound.frame
  have apart : ∀ worker ∈ row, worker ≠ mover := fun worker member same => outside (same ▸ member)
  obtain ⟨place, locking, other, otherMember, guard, own, held⟩ := knot worker member
  have awaited : (shop.graph now).awaitedBy worker = some place.resource := by
    obtain ⟨record, found, awaiting⟩ := reliable.awaiting_of_locking locking
    rw [awaitedBy_eq, found, Option.bind_some, awaiting]
  have stillAwaited : (next.graph now).awaitedBy worker = some place.resource := by
    rw [awaitedBy_eq, frame.record? worker (apart worker member), ← awaitedBy_eq, awaited]
  have pool : next.OnePool := fun place inside => reliable.pool place (frame.contains.mp inside)
  have same : guard.site = site place.resource := by
    rw [held]
    exact reliable.pool place (reliable.orderly.inside worker place locking)
  have stillOwn : guard ∈ next.guardsOf other := by
    rw [frame.guardsOf other (apart other otherMember)]
    exact own
  have named : next.board.names place.resource = shop.board.names place.resource := by
    funext someone
    by_cases moved : someone = mover
    · subst moved
      have foreign := (apart other otherMember).symm
      rw [truthful.not_named reliable.orderly reliable.pool own same foreign,
        sound.truthful.not_named sound.orderly pool stillOwn same foreign]
    · unfold Board.names
      rw [frame.record? someone moved]
  simp only [WaitGraph.blocker, awaited, stillAwaited, holder_eq, named, frame.records]

end Contention.Workshop

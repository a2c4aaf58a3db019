import Contention.Naming

namespace Contention

/-- A row of exclusive resources, each free or held.  The pool does nothing
against deadlock and lets any waiter win. -/
structure Pool where
  cells : List Bool
deriving DecidableEq, Repr, Inhabited

namespace Pool

def ofSize (count : Nat) : Pool := { cells := List.replicate count false }

def size (pool : Pool) : Nat := pool.cells.length

def isEmpty (pool : Pool) : Bool := pool.cells.isEmpty

/-- A resource outside the pool is never held. -/
def isHeld (pool : Pool) (resource : Resource) : Bool :=
  pool.cells[resource.index]?.getD false

def lock (pool : Pool) (resource : Resource) : Pool :=
  { cells := pool.cells.set resource.index true }

def unlock (pool : Pool) (resource : Resource) : Pool :=
  { cells := pool.cells.set resource.index false }

def locked (pool : Pool) : List Resource :=
  (List.range pool.size).map Resource.mk |>.filter pool.isHeld

@[simp] theorem size_ofSize (count : Nat) : (ofSize count).size = count := by
  simp [ofSize, size]

@[simp] theorem size_lock (pool : Pool) (resource : Resource) :
    (pool.lock resource).size = pool.size := by
  simp [lock, size]

@[simp] theorem size_unlock (pool : Pool) (resource : Resource) :
    (pool.unlock resource).size = pool.size := by
  simp [unlock, size]

theorem isHeld_ofSize (count : Nat) (resource : Resource) :
    (ofSize count).isHeld resource = false := by
  simp only [isHeld, ofSize, List.getElem?_replicate]
  split <;> rfl

theorem isHeld_lock {pool : Pool} {locked resource : Resource}
    (inside : locked.index < pool.size) :
    (pool.lock locked).isHeld resource =
      (decide (resource = locked) || pool.isHeld resource) := by
  cases locked
  cases resource
  simp only [size] at inside
  simp only [isHeld, lock, List.getElem?_set, Resource.mk.injEq]
  grind

theorem isHeld_unlock {pool : Pool} {freed resource : Resource} :
    (pool.unlock freed).isHeld resource =
      (!decide (resource = freed) && pool.isHeld resource) := by
  cases freed
  cases resource
  simp only [isHeld, unlock, List.getElem?_set, Resource.mk.injEq]
  grind

theorem mem_locked {pool : Pool} {resource : Resource} :
    resource ∈ pool.locked ↔ pool.isHeld resource = true := by
  simp only [locked, List.mem_filter, List.mem_map, List.mem_range]
  constructor
  · exact fun found => found.2
  · intro held
    refine ⟨⟨resource.index, ?_, rfl⟩, held⟩
    unfold isHeld at held
    unfold size
    grind

end Pool

end Contention

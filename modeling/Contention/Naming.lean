import Contention.Word

namespace Contention

structure Resource where
  index : Nat
deriving DecidableEq, Repr, Inhabited

structure Worker where
  index : Nat
deriving DecidableEq, Repr, Inhabited

namespace Resource

instance : LE Resource := ⟨fun left right => left.index ≤ right.index⟩

instance (left right : Resource) : Decidable (left ≤ right) :=
  inferInstanceAs (Decidable (left.index ≤ right.index))

theorem le_iff {left right : Resource} : left ≤ right ↔ left.index ≤ right.index := Iff.rfl

def lower (left right : Resource) : Resource := if left ≤ right then left else right

def higher (left right : Resource) : Resource := if left ≤ right then right else left

def name (resource : Resource) : String := s!"R{resource.index}"

end Resource

namespace Worker

instance : LE Worker := ⟨fun left right => left.index ≤ right.index⟩

instance (left right : Worker) : Decidable (left ≤ right) :=
  inferInstanceAs (Decidable (left.index ≤ right.index))

theorem le_iff {left right : Worker} : left ≤ right ↔ left.index ≤ right.index := Iff.rfl

def isOdd (worker : Worker) : Bool := worker.index % 2 == 1

def name (worker : Worker) : String :=
  if worker.index < 10 then s!"W0{worker.index}" else s!"W{worker.index}"

end Worker

def team (count : Nat) : List Worker := (List.range count).map Worker.mk

end Contention

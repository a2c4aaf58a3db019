import Contention.Naming
import Contention.Text.Json

namespace Contention

inductive Holding where
  | none
  | one (resource : Resource)
  | two (first second : Resource)
deriving DecidableEq, Repr, Inhabited

namespace Holding

/-- Reads two cells, skipping the empty ones. -/
def ofCells : Option Resource → Option Resource → Holding
  | .none, .none => .none
  | some resource, .none => .one resource
  | .none, some resource => .one resource
  | some first, some second => .two first second

def toList : Holding → List Resource
  | .none => []
  | .one resource => [resource]
  | .two first second => [first, second]

def size (held : Holding) : Nat := held.toList.length

def isEmpty (held : Holding) : Bool := held.toList.isEmpty

def contains (held : Holding) (resource : Resource) : Bool :=
  held.toList.any fun one => decide (one = resource)

theorem contains_iff {held : Holding} {resource : Resource} :
    held.contains resource = true ↔ resource ∈ held.toList := by
  simp [contains]

def text : Holding → String
  | .none => "(-,-)"
  | .one resource => s!"({resource.index},-)"
  | .two first second => s!"({first.index},{second.index})"

def toJson (held : Holding) : Json := .list (held.toList.map fun one => .natural one.index)

end Holding

end Contention

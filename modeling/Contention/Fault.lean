import Contention.Naming

namespace Contention

/-- Why a thread comes to a sudden end. -/
inductive Fault where
  | emptyPool
  | sumOverflow
  | outOfBounds (size index : Nat)
  | alreadyHoldsTwo (worker : Worker)
  /-- A slot released a resource that its record does not name; `first` is its first cell. -/
  | neverRecorded (worker : Worker) (resource : Resource) (first : Option Resource)
  | clockOverflow
  | spanOverflow
  | spanUnderflow
  | sectionFailed (reason : String)
deriving DecidableEq, Repr

def cellWord : Option Resource → Nat
  | none => wordMax
  | some resource => resource.index

def Fault.message : Fault → String
  | .emptyPool => "resource pool must not be empty"
  | .sumOverflow => "attempt to add with overflow"
  | .outOfBounds size index =>
      s!"index out of bounds: the len is {size} but the index is {index}"
  | .alreadyHoldsTwo worker => worker.name ++ " already holds two resources"
  | .neverRecorded worker resource first =>
      "assertion `left == right` failed: " ++ worker.name ++ " released " ++ resource.name ++
        s!" it never recorded\n  left: {cellWord first}\n right: {resource.index}"
  | .clockOverflow => "overflow when adding duration to instant"
  | .spanOverflow => "overflow when adding durations"
  | .spanUnderflow => "overflow when subtracting durations"
  | .sectionFailed reason => reason

end Contention

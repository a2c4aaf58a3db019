import Contention.Fault

namespace Contention

def addWords (left right : Nat) : Except Fault Nat :=
  if left + right ≤ wordMax then .ok (left + right) else .error .sumOverflow

def sumWords (numbers : List Nat) : Except Fault Nat := numbers.foldlM addWords 0

end Contention

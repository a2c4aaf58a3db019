import Contention.Text.Json
import Contention.Text.Lowercase

namespace Contention

inductive Mode where
  /-- As the parity of the worker says.  Can deadlock. -/
  | unordered
  /-- The lower resource first.  Cannot deadlock. -/
  | totalOrder
deriving DecidableEq, Repr

inductive Pairing where
  /-- Workers `2k` and `2k + 1` share the pair of `k` and `k + 1`. -/
  | paired
  /-- Worker `i` takes `i` and `i + 1`, so that neighbours share one. -/
  | adjacent
deriving DecidableEq, Repr

/-- A text that spells no mode or no pairing, as it was given. -/
inductive SpellingError where
  | unknownMode (text : String)
  | unknownPairing (text : String)
deriving DecidableEq, Repr

def SpellingError.message : SpellingError → String
  | .unknownMode text =>
      "Unknown acquisition mode: " ++ text ++ " (expected unordered or total-order)"
  | .unknownPairing text =>
      "Unknown pairing rule: " ++ text ++ " (expected paired or adjacent)"

namespace Mode

instance : Inhabited Mode := ⟨.unordered⟩

def all : List Mode := [.unordered, .totalOrder]

def name : Mode → String
  | .unordered => "unordered"
  | .totalOrder => "total-order"

def debugName : Mode → String
  | .unordered => "Unordered"
  | .totalOrder => "TotalOrder"

def preventsDeadlock : Mode → Bool
  | .unordered => false
  | .totalOrder => true

def spellings : Mode → List String
  | .unordered => ["unordered", "unsafe"]
  | .totalOrder => ["total-order", "totalorder", "ordered", "safe"]

def parse (text : String) : Except SpellingError Mode :=
  let lowered := Text.lowercase text
  if unordered.spellings.contains lowered then .ok unordered
  else if totalOrder.spellings.contains lowered then .ok totalOrder
  else .error (.unknownMode text)

end Mode

namespace Pairing

instance : Inhabited Pairing := ⟨.paired⟩

def name : Pairing → String
  | .paired => "paired"
  | .adjacent => "adjacent"

def spellings : Pairing → List String
  | .paired => ["paired", "pairs"]
  | .adjacent => ["adjacent", "ring"]

def parse (text : String) : Except SpellingError Pairing :=
  let lowered := Text.lowercase text
  if paired.spellings.contains lowered then .ok paired
  else if adjacent.spellings.contains lowered then .ok adjacent
  else .error (.unknownPairing text)

end Pairing

end Contention

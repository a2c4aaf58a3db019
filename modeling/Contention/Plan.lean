import Contention.Mode
import Contention.Sum

namespace Contention

/-- The two resources of a worker in a pool of `resources`.  They differ as soon
as there are two resources. -/
def Pairing.pairFor (pairing : Pairing) (worker : Worker) (resources : Nat) :
    Except Fault (Resource × Resource) :=
  let base :=
    match pairing with
    | .paired => worker.index / 2
    | .adjacent => worker.index
  if resources = 0 then .error .emptyPool
  else
    (addWords base 1).map fun next => (⟨base % resources⟩, ⟨next % resources⟩)

def Mode.arrange (mode : Mode) (worker : Worker) (pair : Resource × Resource) :
    Resource × Resource :=
  match mode with
  | .unordered => if worker.isOdd then (pair.2, pair.1) else pair
  | .totalOrder => (pair.1.lower pair.2, pair.1.higher pair.2)

def route (mode : Mode) (pairing : Pairing) (resources : Nat) (worker : Worker) :
    Except Fault (Resource × Resource) :=
  (pairing.pairFor worker resources).map (mode.arrange worker)

def plan (mode : Mode) (pairing : Pairing) (resources workers : Nat) :
    Except Fault (List (Resource × Resource)) :=
  (team workers).mapM (route mode pairing resources)

end Contention

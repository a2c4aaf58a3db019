import Contention.WaitGraph.Basic

namespace Contention

/-! The search for circular waits.  From every waiting worker that no walk has
met, a walk follows the wait-for edges until it ends or meets a marked worker;
if that worker is on the walk itself, a cycle is closed. -/

inductive Mark where
  | onWalk
  | finished
deriving DecidableEq, Repr

/-- The newest mark of each worker comes first. -/
abbrev Marks := List (Worker × Mark)

inductive Ending where
  /-- At a worker that waits for nobody, or at one of an earlier walk. -/
  | spent
  /-- At a worker of the walk itself, met before at this position; none if it
  was not found there. -/
  | closed (position : Option Nat)
  | cut
deriving DecidableEq, Repr

structure Walk where
  path : List Worker
  ending : Ending
deriving DecidableEq, Repr

namespace WaitGraph

def walkFrom (graph : WaitGraph) :
    Nat → Marks → List Worker → Option Worker → Walk × Marks
  | _, marks, path, none => ({ path, ending := .spent }, marks)
  | 0, marks, path, some _ => ({ path, ending := .cut }, marks)
  | fuel + 1, marks, path, some current =>
      match marks.lookup current with
      | none =>
          graph.walkFrom fuel ((current, .onWalk) :: marks) (path ++ [current])
            (graph.blocker current)
      | some .onWalk => ({ path, ending := .closed (path.idxOf? current) }, marks)
      | some .finished => ({ path, ending := .spent }, marks)

/-- More steps than any walk takes: each step but the last marks a worker, and
every worker of a walk waits, but for its last. -/
def stepLimit (graph : WaitGraph) : Nat := graph.waits.length + 2

def walksFrom (graph : WaitGraph) : Marks → List Worker → List Walk
  | _, [] => []
  | marks, start :: rest =>
      match marks.lookup start with
      | some _ => graph.walksFrom marks rest
      | none =>
          let (walk, walked) := graph.walkFrom graph.stepLimit marks [] (some start)
          let finished := walk.path.foldl (fun marks worker => (worker, .finished) :: marks) walked
          walk :: graph.walksFrom finished rest

def walks (graph : WaitGraph) : List Walk := graph.walksFrom [] graph.waiting

end WaitGraph

def leastWorker : List Worker → Option Worker
  | [] => none
  | worker :: rest =>
      match leastWorker rest with
      | none => some worker
      | some least => some (if worker ≤ least then worker else least)

def rotateToLeast (cycle : List Worker) : List Worker :=
  match leastWorker cycle with
  | none => []
  | some least =>
      let position := cycle.idxOf least
      cycle.drop position ++ cycle.take position

def Walk.cycle? (walk : Walk) : Option (List Worker) :=
  match walk.ending with
  | .closed (some position) => some (rotateToLeast (walk.path.drop position))
  | _ => none

def dictionaryLe : List Worker → List Worker → Bool
  | [], _ => true
  | _ :: _, [] => false
  | left :: lefts, right :: rights =>
      if left = right then dictionaryLe lefts rights else decide (left ≤ right)

namespace WaitGraph

/-- All circular waits, each from its least worker on in wait-for order. -/
def cycles (graph : WaitGraph) : List (List Worker) :=
  (graph.walks.filterMap Walk.cycle?).mergeSort dictionaryLe

def hasMutualWait (graph : WaitGraph) : Bool := graph.cycles.any fun cycle => cycle.length == 2

end WaitGraph

end Contention

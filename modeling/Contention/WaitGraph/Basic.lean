import Contention.Snapshot

namespace Contention

structure WaitGraph where
  holdings : List (Resource × Worker)
  waits : List (Worker × Resource)
deriving DecidableEq, Repr

def insertSorted (worker : Worker) : List Worker → List Worker
  | [] => [worker]
  | next :: rest =>
      if worker = next then next :: rest
      else if worker ≤ next then worker :: next :: rest
      else next :: insertSorted worker rest

def ascending (workers : List Worker) : List Worker := workers.foldr insertSorted []

namespace WaitGraph

def ofSnapshots (snapshots : List Snapshot) : WaitGraph where
  holdings := snapshots.flatMap fun snapshot =>
    snapshot.held.toList.map fun resource => (resource, snapshot.worker)
  waits := snapshots.filterMap fun snapshot =>
    snapshot.awaiting.map fun resource => (snapshot.worker, resource)

/-- If two records name one resource, the one that comes first is believed. -/
def holder (graph : WaitGraph) (resource : Resource) : Option Worker :=
  graph.holdings.lookup resource

/-- If two records of one worker wait, the one that comes last is believed. -/
def awaitedBy (graph : WaitGraph) (worker : Worker) : Option Resource :=
  graph.waits.reverse.lookup worker

def waiting (graph : WaitGraph) : List Worker := ascending (graph.waits.map (·.1))

def queue (graph : WaitGraph) (resource : Resource) : Option (List Worker) :=
  match graph.waits.filter (fun wait => decide (wait.2 = resource)) with
  | [] => none
  | waits => some (ascending (waits.map (·.1)))

/-- The worker that `worker` waits for: the owner of what it awaits, unless that
is the worker itself. -/
def blocker (graph : WaitGraph) (worker : Worker) : Option Worker :=
  match graph.awaitedBy worker with
  | none => none
  | some resource => (graph.holder resource).filter fun owner => decide (owner ≠ worker)

def edges (graph : WaitGraph) : List (Worker × Worker) :=
  graph.waiting.filterMap fun worker => (graph.blocker worker).map fun other => (worker, other)

end WaitGraph

end Contention

import Contention.Worker.Loop

namespace Contention

structure SectionEntry where
  worker : Worker
  pair : Resource × Resource
  drawn : Option UInt64
deriving DecidableEq, Repr

structure Trial where
  config : Config
  worker : Worker
  /-- The cycle in which the section asks for a stop; the stop comes before the
  first cycle if this is zero. -/
  cycles : Nat
  draws : Bool := false
  hold : Option Resource := none
  stopWhileBlocked : Option EndReason := none

structure TrialResult where
  ended : Except Fault Nat
  events : List Event
  entries : List SectionEntry
  blocked : Option Record
  final : System (List SectionEntry)

namespace Trial

def enterStep (trial : Trial) (worker : Worker) (pair : Resource × Resource) :
    Section.Step (List SectionEntry) :=
  fun entries generator =>
    let (word, rest) := generator.next
    let entry := { worker, pair, drawn := if trial.draws then some word else none }
    let entries := entries ++ [entry]
    { shared := entries
      generator := if trial.draws then rest else generator
      request := if entries.length = trial.cycles then some .operator else none }

def criticalSection (trial : Trial) : Section (List SectionEntry) where
  script worker pair := [
    Section.sleepStep trial.config.workload.work worker pair,
    trial.enterStep worker pair]

def regime (trial : Trial) : Regime (List SectionEntry) where
  mode := trial.config.mode
  pairing := trial.config.pairing
  workload := trial.config.workload
  criticalSection := trial.criticalSection

def stepLimit (trial : Trial) : Nat := 40 * (trial.cycles + 1)

/-- The slot of the thread that holds a resource comes after all workers. -/
def holder (trial : Trial) : Worker := { index := trial.config.workers }

/-- Where the worker is blocked: its lock call has been made and has not returned. -/
def isBlocked (trial : Trial) (system : System (List SectionEntry)) : Bool :=
  !system.shop.isIdle trial.worker

def initial (trial : Trial) : System (List SectionEntry) :=
  let resources := trial.config.resources
  let start := System.fresh resources trial.config.workers trial.config.seed [] .origin
  let shop := Workshop.fresh (trial.config.workers + 1) [resources] .origin
  let held :=
    match trial.hold with
    | none => shop
    | some resource =>
        if resource.index < resources then (shop.acquire trial.holder (System.site resource)).shop
        else shop
  let ready := { start with shop := held }
  if trial.cycles = 0 then ready.halt .operator else ready

def letGo (trial : Trial) (system : System (List SectionEntry)) : System (List SectionEntry) :=
  match (system.shop.guardsOf trial.holder).head? with
  | none => system
  | some guard => { system with shop := (system.shop.release trial.holder guard).shop }

def unblock (trial : Trial) (system : System (List SectionEntry)) : System (List SectionEntry) :=
  match trial.stopWhileBlocked with
  | none => trial.letGo system
  | some reason => trial.letGo (system.halt reason)

def run (trial : Trial) : TrialResult :=
  let early := System.runOne trial.regime trial.worker trial.stepLimit trial.initial
  let isBlocked := trial.isBlocked early.system
  let late :=
    if isBlocked then
      System.runOne trial.regime trial.worker trial.stepLimit (trial.unblock early.system)
    else { system := trial.letGo early.system }
  let thread := late.system.thread? trial.worker
  let ended :=
    match thread.map (·.stage) with
    | some (.failed fault) => .error fault
    | _ => .ok ((thread.map (·.completed)).getD 0)
  { ended
    events := (early.effects ++ late.effects).filterMap Effect.event?
    entries := late.system.shared
    blocked := if isBlocked then early.system.shop.board.record? trial.worker else none
    final := late.system }

end Trial

end Contention

import Contention.Phase.Basic

namespace Contention

open Contention.Random

/-! A schedule for a phase.  A step keeps its thread busy for a short time, and
one that sleeps for longer; meanwhile the others go on.  Of the threads that are
free and can take a step, the one that has been free longest goes first, so none
is passed over for ever.  Time passes when nobody can do anything. -/

structure Timeline (σ : Type) where
  phase : Phase σ
  wakes : List (Actor × Instant)
  /-- Decides how long each step takes. -/
  pace : Generator
  heard : List Event := []

namespace Timeline

variable {σ : Type}

/-- All threads are free.  The pace is drawn from a stream of the phase's seed
that no worker uses. -/
def start (phase : Phase σ) : Timeline σ where
  phase := phase
  wakes := phase.actors.map fun actor => (actor, phase.system.clock)
  pace := .ofSeed phase.config.seed (UInt64.ofNat phase.config.workers)

def now (timeline : Timeline σ) : Instant := timeline.phase.system.clock

structure Tick (σ : Type) where
  timeline : Timeline σ
  actor : Actor
  effects : List Effect

/-- How long a step takes, in nanoseconds: one microsecond and up to eight more.
Steps of unequal length keep the threads from going on in lockstep. -/
def stepTime (pace : Generator) : Nat × Generator :=
  let (word, rest) := pace.next
  (1000 + word.toNat % 8192, rest)

def wakeAfter (now : Instant) (busy : Nat) (effects : List Effect) : Instant :=
  { nanos := effects.foldl (fun nanos effect =>
      nanos + ((effect.pause?).map (·.nanos)).getD 0) (now.nanos + busy) }

def awake (timeline : Timeline σ) : List Actor :=
  ((timeline.wakes.filter fun entry => decide (entry.2 ≤ timeline.now)).mergeSort
    fun left right => decide (left.2 ≤ right.2)).map (·.1)

def firstStep (phase : Phase σ) : List Actor → Option (Actor × Phase.Step σ)
  | [] => none
  | actor :: rest =>
      match phase.step actor with
      | some step => some (actor, step)
      | none => firstStep phase rest

def tick? (timeline : Timeline σ) : Option (Tick σ) :=
  (firstStep timeline.phase timeline.awake).map fun (actor, step) =>
    let (busy, pace) := stepTime timeline.pace
    let logged := if actor = .host then step.effects.filterMap Effect.event? else []
    { timeline := {
        phase := step.phase
        wakes := timeline.wakes.map fun entry =>
          if entry.1 = actor then (actor, wakeAfter timeline.now busy step.effects) else entry
        pace
        heard := logged.reverse ++ timeline.heard }
      actor
      effects := step.effects }

def alarms (timeline : Timeline σ) : List Instant :=
  let monitor :=
    match timeline.phase.monitor.stage with
    | .sleeping deadline => [deadline]
    | _ => []
  let host :=
    match timeline.phase.host with
    | .waiting => [timeline.phase.deadline]
    | _ => []
  monitor ++ host

def nextTime? (timeline : Timeline σ) : Option Instant :=
  let coming := (timeline.wakes.map (·.2) ++ timeline.alarms).filter fun time =>
    !decide (time ≤ timeline.now)
  coming.foldl (fun earliest time =>
    match earliest with
    | none => some time
    | some found => some (if time ≤ found then time else found)) none

def passTo (timeline : Timeline σ) (time : Instant) : Timeline σ :=
  { timeline with phase := timeline.phase.setClock time }

/-- Goes on until the phase is as wanted, or nothing can happen any more, or the
steps are used up. -/
def runUntil (wanted : Phase σ → Bool) : Nat → Timeline σ → Timeline σ
  | 0, timeline => timeline
  | fuel + 1, timeline =>
      if wanted timeline.phase then timeline
      else
        match timeline.tick? with
        | some tick => runUntil wanted fuel tick.timeline
        | none =>
            match timeline.nextTime? with
            | some time => runUntil wanted fuel (timeline.passTo time)
            | none => timeline

end Timeline

end Contention

import Contention.Delay
import Contention.EndReason
import Contention.Event

namespace Contention

open Contention.Random

inductive Effect where
  | log (event : Event)
  | pause (length : Span)
deriving DecidableEq, Repr

def Effect.event? : Effect → Option Event
  | .log event => some event
  | .pause _ => none

def Effect.pause? : Effect → Option Span
  | .log _ => none
  | .pause length => some length

namespace Section

structure Outcome (σ : Type) where
  shared : σ
  generator : Generator
  effects : List Effect := []
  request : Option EndReason := none
  fault : Option Fault := none

abbrev Step (σ : Type) := σ → Generator → Outcome σ

end Section

/-- A critical section: its script for a worker and the pair that it holds, in
acquisition order. -/
structure Section (σ : Type) where
  script : Worker → Resource × Resource → List (Section.Step σ)

namespace Section

variable {σ : Type}

def drawPause (range : Delay) (announce : Span → List Event) : Step σ :=
  fun shared generator =>
    match range.draw generator with
    | .error fault => { shared, generator, fault := some fault }
    | .ok (length, rest) => {
        shared
        generator := rest
        effects := (announce length).map Effect.log ++ [.pause length] }

def sleepEvent (worker : Worker) (pair : Resource × Resource) (pause : Span) : Event where
  level := .trace
  message := "Critical section"
  fields := [
    ("worker", worker.name), ("first", pair.1.name), ("second", pair.2.name),
    ("pause", pause.text)]

def sleepStep (range : Delay) (worker : Worker) (pair : Resource × Resource) : Step σ :=
  drawPause range fun pause => [sleepEvent worker pair pause]

def sleep (range : Delay) : Section σ where
  script worker pair := [sleepStep range worker pair]

end Section

end Contention

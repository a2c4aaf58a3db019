import Contention.Signals.Basic

namespace Contention

namespace Signals

inductive Command where
  | record
  | stop (reason : EndReason)
  | isStopped
  | wait (timeout : Span)
  /-- Waits with a deadline that has already come. -/
  | waitPast
  /-- Another thread requests a stop while the caller waits. -/
  | waitWoken (reason : EndReason)
  /-- Many threads count operations while many request a stop. -/
  | race (counters each stoppers : Nat) (reason : EndReason)
deriving DecidableEq, Repr

inductive Answer where
  | count (total : Nat)
  | truth (value : Bool)
  | reason (reason : Option EndReason)
  | woken (reason : Option EndReason) (won : Bool)
  | fault (fault : Fault)
deriving DecidableEq, Repr

structure Reply where
  signals : Signals
  answer : Answer
  events : List Event := []
deriving DecidableEq, Repr

def requestMany (signals : Signals) (reason : EndReason) : Nat → Signals × Nat
  | 0 => (signals, 0)
  | requests + 1 =>
      let (before, winners) := requestMany signals reason requests
      let request := before.halt reason
      (request.signals, if request.won then winners + 1 else winners)

def recordMany (signals : Signals) : Nat → Signals
  | 0 => signals
  | operations + 1 => (recordMany signals operations).record

def perform (signals : Signals) (now : Instant) : Command → Reply
  | .record =>
      let counted := signals.record
      { signals := counted, answer := .count counted.total }
  | .stop reason =>
      let request := signals.halt reason
      { signals := request.signals, answer := .truth request.won, events := [request.event] }
  | .isStopped => { signals, answer := .truth signals.stopped }
  | .wait timeout =>
      match signals.await now timeout with
      | .ok stopped => { signals, answer := .truth stopped }
      | .error fault => { signals, answer := .fault fault }
  | .waitPast => { signals, answer := .reason ((signals.poll now now).getD none) }
  | .waitWoken reason =>
      let request := signals.halt reason
      { signals := request.signals
        answer := .woken ((request.signals.poll now now).getD none) request.won }
  | .race counters each stoppers reason =>
      let (stopped, winners) := (signals.recordMany (counters * each)).requestMany reason stoppers
      { signals := stopped, answer := .count winners }

def session (signals : Signals) (now : Instant) : List Command → List Reply
  | [] => []
  | command :: rest =>
      let reply := signals.perform now command
      reply :: reply.signals.session now rest

end Signals

end Contention

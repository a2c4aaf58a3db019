import Contention.Workshop.Basic

namespace Contention

namespace Workshop

inductive Command where
  | acquire (worker : Worker) (site : Site)
  | release (worker : Worker) (guard : Nat)
  | drop (guard : Nat)
  | complete (worker : Worker)
  | snapshot (worker : Worker)
  | isHeld (site : Site)
deriving DecidableEq, Repr

inductive Answer where
  | wouldBlock
  | guard (number : Nat) (resource : Resource)
  | fault (fault : Fault)
  | released
  | dropped
  | noGuard
  | count (completed : Nat)
  | record (record : Option Record)
  | held (held : Bool)
deriving DecidableEq, Repr

structure Reply where
  shop : Workshop
  answer : Answer
  events : List Event := []

/-- Carries out one command.  An operation that ends suddenly leaves what it has
already done. -/
def perform (shop : Workshop) : Command → Reply
  | .acquire worker site =>
      if shop.isHeld site then { shop, answer := .wouldBlock }
      else
        let step := shop.acquire worker site
        let answer :=
          match step.fault with
          | some fault => Answer.fault fault
          | none => .guard shop.made site.resource
        { shop := step.shop, answer, events := step.events }
  | .release worker number =>
      match shop.guard? number with
      | none => { shop, answer := .noGuard }
      | some guard =>
          let step := shop.release worker guard
          let answer :=
            match step.fault with
            | some fault => Answer.fault fault
            | none => .released
          { shop := step.shop, answer, events := step.events }
  | .drop number =>
      match shop.guard? number with
      | none => { shop, answer := .noGuard }
      | some guard => { shop := shop.free guard, answer := .dropped }
  | .complete worker =>
      let completed := shop.complete worker .origin
      { shop := completed
        answer := .count (((completed.board.record? worker).map (·.completed)).getD 0) }
  | .snapshot worker => { shop, answer := .record (shop.board.record? worker) }
  | .isHeld site => { shop, answer := .held (shop.isHeld site) }

def session (shop : Workshop) : List Command → List Reply
  | [] => []
  | command :: rest =>
      let reply := shop.perform command
      reply :: reply.shop.session rest

end Workshop

end Contention

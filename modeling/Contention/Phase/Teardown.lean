import Contention.Naming
import Contention.Time.Instant

namespace Contention

/-- One look at the workers: who has ended, and the time after the look. -/
structure Poll where
  hasEnded : Worker → Bool
  now : Instant

structure Teardown where
  deadline : Instant
  /-- In the order in which they were joined. -/
  joined : List Worker := []
  pending : List Worker
deriving DecidableEq, Repr

namespace Teardown

def look (teardown : Teardown) (hasEnded : Worker → Bool) : Teardown :=
  let (ended, running) := teardown.pending.partition hasEnded
  { teardown with joined := teardown.joined ++ ended, pending := running }

/-- No further look is taken: nobody is left, or the grace has run out. -/
def isOver (teardown : Teardown) (now : Instant) : Bool :=
  teardown.pending.isEmpty || decide (teardown.deadline ≤ now)

/-- Takes one look after the other until it is over.  There is no answer if the
looks are used up first. -/
def watch (teardown : Teardown) : List Poll → Option Teardown
  | [] => none
  | poll :: rest =>
      let next := teardown.look poll.hasEnded
      if next.isOver poll.now then some next else next.watch rest

end Teardown

end Contention

import Contention.Random.Generator
import Contention.Time.Span

namespace Contention

open Contention.Random

/-- The range of a random delay, both ends included. -/
structure Delay where
  least : Span
  greatest : Span
deriving DecidableEq, Repr, Inhabited

namespace Delay

def zero : Delay := { least := .zero, greatest := .zero }

def millis (least greatest : UInt64) : Delay :=
  { least := .ofMillisWord least, greatest := .ofMillisWord greatest }

/-- Draws a delay with the help of a source that yields a number up to a given
one.  An empty or reversed range has only its least delay and leaves the source
alone. -/
def drawFrom {γ : Type} (numberUpTo : UInt64 → γ → UInt64 × γ) (range : Delay) (source : γ) :
    Except Fault (Span × γ) :=
  if range.greatest ≤ range.least then .ok (range.least, source)
  else do
    let width ← range.greatest.sub range.least
    let (drawn, rest) := numberUpTo width.nanosWord source
    let delay ← range.least.add (.ofNanosWord drawn)
    return (delay, rest)

def draw (range : Delay) (generator : Generator) : Except Fault (Span × Generator) :=
  range.drawFrom Generator.drawUpTo generator

def drawEach : List Delay → Generator → Except Fault (List Span × Generator)
  | [], generator => .ok ([], generator)
  | range :: ranges, generator => do
      let (delay, rest) ← range.draw generator
      let (delays, final) ← drawEach ranges rest
      return (delay :: delays, final)

end Delay

end Contention

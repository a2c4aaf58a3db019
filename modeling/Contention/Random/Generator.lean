import Contention.Random.ChaCha

namespace Contention.Random

structure Generator where
  key : Key
  stream : UInt64
  position : Nat
deriving DecidableEq, Repr

def advanceSeed (state : UInt64) : UInt64 :=
  state * 6364136223846793005 + 11634580027462260723

/-- Mixes the high bits of a seed state down and rotates by the topmost five. -/
def seedWord (state : UInt64) : UInt32 :=
  let mixed := (((state >>> 18) ^^^ state) >>> 27).toUInt32
  let count := (state >>> 59).toUInt32
  (mixed >>> count) ||| (mixed <<< ((32 - count) % 32))

def seedKey (seed : UInt64) : Key :=
  let one := advanceSeed seed
  let two := advanceSeed one
  let three := advanceSeed two
  let four := advanceSeed three
  let five := advanceSeed four
  let six := advanceSeed five
  let seven := advanceSeed six
  let eight := advanceSeed seven
  #v[seedWord one, seedWord two, seedWord three, seedWord four,
    seedWord five, seedWord six, seedWord seven, seedWord eight]

namespace Generator

def ofSeed (seed stream : UInt64) : Generator :=
  { key := seedKey seed, stream, position := 0 }

/-- The word at a position: two neighbouring words of a block, low word first. -/
def wordAt (generator : Generator) (position : Nat) : UInt64 :=
  let block := keystreamBlock generator.key generator.stream (UInt64.ofNat (position / 8))
  let low := block.get ⟨2 * (position % 8), by omega⟩
  let high := block.get ⟨2 * (position % 8) + 1, by omega⟩
  (high.toUInt64 <<< 32) ||| low.toUInt64

def next (generator : Generator) : UInt64 × Generator :=
  (generator.wordAt generator.position, { generator with position := generator.position + 1 })

/-- After this many words the stream begins again. -/
def period : Nat := 8 * 18446744073709551616

/-- The largest low half of a product that is accepted in a draw among `count`
values: `count` shifted up to the top of the word, less one. -/
def acceptance (count : Nat) : Nat := (count <<< (63 - count.log2)) - 1

/-- Multiplies words by `count` until the low half of a product is accepted; the
high half is then drawn evenly from the numbers below `count`.  Words that are
refused in a whole period are refused forever. -/
def drawBelow (count : Nat) : Nat → Generator → Nat × Generator
  | 0, generator => (0, generator)
  | attempts + 1, generator =>
      let (word, rest) := generator.next
      let product := word.toNat * count
      if product % 18446744073709551616 ≤ acceptance count then
        (product / 18446744073709551616, rest)
      else drawBelow count attempts rest

/-- An even draw from `0` to `greatest`, both included.  Where every word is
wanted one is taken as it comes. -/
def drawUpTo (greatest : UInt64) (generator : Generator) : UInt64 × Generator :=
  if greatest.toNat + 1 = 18446744073709551616 then generator.next
  else
    let (drawn, rest) := drawBelow (greatest.toNat + 1) period generator
    (UInt64.ofNat drawn, rest)

end Generator

end Contention.Random

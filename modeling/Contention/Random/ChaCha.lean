namespace Contention.Random

abbrev Block := Vector UInt32 16

def rotateLeft (word : UInt32) (count : UInt32) : UInt32 :=
  (word <<< count) ||| (word >>> (32 - count))

def quarterRound (block : Block) (a b c d : Fin 16) : Block :=
  let x := block[a] + block[b]
  let w := rotateLeft (block[d] ^^^ x) 16
  let z := block[c] + w
  let y := rotateLeft (block[b] ^^^ z) 12
  let x := x + y
  let w := rotateLeft (w ^^^ x) 8
  let z := z + w
  let y := rotateLeft (y ^^^ z) 7
  (((block.set a x).set b y).set c z).set d w

def doubleRound (block : Block) : Block :=
  let block := quarterRound block 0 4 8 12
  let block := quarterRound block 1 5 9 13
  let block := quarterRound block 2 6 10 14
  let block := quarterRound block 3 7 11 15
  let block := quarterRound block 0 5 10 15
  let block := quarterRound block 1 6 11 12
  let block := quarterRound block 2 7 8 13
  quarterRound block 3 4 9 14

abbrev Key := Vector UInt32 8

def lowWord (number : UInt64) : UInt32 := number.toUInt32

def highWord (number : UInt64) : UInt32 := (number >>> 32).toUInt32

/-- The block before its rounds: four constants, the key, the block number and
the stream number, low words first. -/
def initialBlock (key : Key) (stream number : UInt64) : Block :=
  #v[0x61707865, 0x3320646e, 0x79622d32, 0x6b206574,
    key[0], key[1], key[2], key[3], key[4], key[5], key[6], key[7],
    lowWord number, highWord number, lowWord stream, highWord stream]

def keystreamBlock (key : Key) (stream number : UInt64) : Block :=
  let initial := initialBlock key stream number
  let mixed := doubleRound (doubleRound (doubleRound (doubleRound initial)))
  Vector.zipWith (· + ·) mixed initial

end Contention.Random

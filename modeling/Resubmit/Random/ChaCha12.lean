import Resubmit.Random.WordSource

namespace Resubmit

/-!
# Seeded random words

The words come from the ChaCha block function with twelve rounds, run in counter
mode.  A seed of sixty-four bits is expanded to the key by a PCG32 generator.
-/

/-- Eight key words of a block function. -/
abbrev Key := Vector UInt32 8

/-- A generator: its key and how many words of sixty-four bits were drawn. -/
structure ChaCha12 where
  key : Key
  drawn : Nat
  deriving DecidableEq, Repr

namespace ChaCha12

/-! ## The key of a seed -/

/-- Advance the state of the key expansion. -/
def advance (state : UInt64) : UInt64 :=
  state * 6364136223846793005 + 11634580027462260723

/-- Rotate a word to the right; the amount counts modulo its width. -/
def rotateRight (word amount : UInt32) : UInt32 :=
  (word >>> (amount % 32)) ||| (word <<< ((32 - amount % 32) % 32))

/-- The key word that a state of the key expansion gives. -/
def permuted (state : UInt64) : UInt32 :=
  let folded := (((state >>> 18) ^^^ state) >>> 27).toUInt32
  rotateRight folded (state >>> 59).toUInt32

/-- The state of the key expansion after `steps` advances. -/
def advanced (seed : UInt64) : Nat → UInt64
  | 0 => seed
  | steps + 1 => advance (advanced seed steps)

/-- The key of a seed. -/
def keyOfSeed (seed : UInt64) : Key :=
  Vector.ofFn fun i => permuted (advanced seed (i + 1))

/-- The generator of a seed, with nothing drawn. -/
def ofSeed (seed : UInt64) : ChaCha12 where
  key := keyOfSeed seed
  drawn := 0

/-! ## The block function -/

/-- Sixteen words, the state of the block function. -/
abbrev Block := Vector UInt32 16

/-- Rotate a word to the left by less than its width. -/
def rotateLeft (word amount : UInt32) : UInt32 :=
  (word <<< amount) ||| (word >>> (32 - amount))

/-- Mix four words of a block. -/
def quarterRound (block : Block) (a b c d : Fin 16) : Block :=
  let x := block[a] + block[b]
  let w := rotateLeft (block[d] ^^^ x) 16
  let z := block[c] + w
  let y := rotateLeft (block[b] ^^^ z) 12
  let x := x + y
  let w := rotateLeft (w ^^^ x) 8
  let z := z + w
  let y := rotateLeft (y ^^^ z) 7
  (((block.set a x).set b y).set c z).set d w

/-- Mix the columns of a block and then its diagonals. -/
def doubleRound (block : Block) : Block :=
  let block := quarterRound block 0 4 8 12
  let block := quarterRound block 1 5 9 13
  let block := quarterRound block 2 6 10 14
  let block := quarterRound block 3 7 11 15
  let block := quarterRound block 0 5 10 15
  let block := quarterRound block 1 6 11 12
  let block := quarterRound block 2 7 8 13
  quarterRound block 3 4 9 14

/-- The block before mixing: constants, key, counter, and a zero nonce. -/
def initialBlock (key : Key) (counter : UInt64) : Block :=
  #v[0x61707865, 0x3320646e, 0x79622d32, 0x6b206574,
    key[0], key[1], key[2], key[3], key[4], key[5], key[6], key[7],
    counter.toUInt32, (counter >>> 32).toUInt32, 0, 0]

/-- The block of a counter: twelve rounds, then the initial block added. -/
def block (key : Key) (counter : UInt64) : Block :=
  let initial := initialBlock key counter
  let mixed := Nat.repeat doubleRound 6 initial
  Vector.zipWith (· + ·) mixed initial

/-- The word of sixty-four bits at a position of the stream, low half first. -/
def wordAt (key : Key) (position : Nat) : UInt64 :=
  let words := block key (UInt64.ofNat (position / 8))
  let index := 2 * (position % 8)
  let low := words.getD index 0
  let high := words.getD (index + 1) 0
  low.toUInt64 ||| (high.toUInt64 <<< 32)

/-- Draw the next word of the stream. -/
def next (source : ChaCha12) : UInt64 × ChaCha12 :=
  (wordAt source.key source.drawn, { source with drawn := source.drawn + 1 })

instance : WordSource ChaCha12 where
  next := next

end ChaCha12

end Resubmit

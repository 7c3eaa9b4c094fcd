/-!
# Tabletop — Dice — Keystream

The stream of random words behind seeded dice: a stream cipher of sixteen-word blocks with four
double rounds, run over a key that a 64-bit seed is stretched to.  The same seed gives the same
words on every machine, so a seeded fight can be replayed.  `Keystream.next` takes the next word.
-/

namespace Tabletop

/-- Sixteen words, the state and the output of one block. -/
abbrev Block := Vector UInt32 16

namespace Block

/-- A word turned left by `n` bits. -/
def turnLeft (x : UInt32) (n : UInt32) : UInt32 := (x <<< n) ||| (x >>> (32 - n))

/-- The mixing step on four of the words. -/
def quarterRound (s : Block) (a b c d : Fin 16) : Block :=
  let wa := s[a] + s[b]
  let wd := turnLeft (s[d] ^^^ wa) 16
  let wc := s[c] + wd
  let wb := turnLeft (s[b] ^^^ wc) 12
  let wa := wa + wb
  let wd := turnLeft (wd ^^^ wa) 8
  let wc := wc + wd
  let wb := turnLeft (wb ^^^ wc) 7
  (((s.set a wa).set b wb).set c wc).set d wd

/-- A round on the four columns and one on the four diagonals of the state. -/
def doubleRound (s : Block) : Block :=
  let s := s.quarterRound 0 4 8 12
  let s := s.quarterRound 1 5 9 13
  let s := s.quarterRound 2 6 10 14
  let s := s.quarterRound 3 7 11 15
  let s := s.quarterRound 0 5 10 15
  let s := s.quarterRound 1 6 11 12
  let s := s.quarterRound 2 7 8 13
  s.quarterRound 3 4 9 14

/-- The output of a block: its state after four double rounds, added to its state before. -/
def output (s : Block) : Block :=
  s.zipWith (· + ·) s.doubleRound.doubleRound.doubleRound.doubleRound

end Block

/-- A position in the stream of words of one key. -/
structure Keystream where
  /-- The key. -/
  key : Vector UInt32 8
  /-- The number of the block that comes after the pending words. -/
  nextBlock : UInt64
  /-- The words of the current block that have not been taken. -/
  pending : List UInt32
  deriving DecidableEq

namespace Keystream

/-- One step of the generator that stretches a seed. -/
def stretchStep (state : UInt64) : UInt64 := state * 6364136223846793005 + 11634580027462260723

/-- The key word that a state of the stretching generator gives. -/
def stretchWord (state : UInt64) : UInt32 :=
  let x := (((state >>> 18) ^^^ state) >>> 27).toUInt32
  let turn := (state >>> 59).toUInt32
  (x >>> turn) ||| (x <<< ((32 - turn) &&& 31))

/-- The key that a seed is stretched to: the words of the next `n` states. -/
def keyWords (state : UInt64) : Nat → List UInt32
  | 0 => []
  | n + 1 => stretchWord (stretchStep state) :: keyWords (stretchStep state) n

/-- The block of a key with a number, before mixing: four constants, the key, the number. -/
def initial (key : Vector UInt32 8) (number : UInt64) : Block :=
  #v[0x61707865, 0x3320646e, 0x79622d32, 0x6b206574,
     key[0], key[1], key[2], key[3], key[4], key[5], key[6], key[7],
     number.toUInt32, (number >>> 32).toUInt32, 0, 0]

/-- The words of the block with a number. -/
def wordsOf (key : Vector UInt32 8) (number : UInt64) : List UInt32 :=
  (initial key number).output.toList

/-- The start of the stream of a seed. -/
def ofSeed (seed : UInt64) : Keystream :=
  { key := Vector.ofFn fun i => (keyWords seed 8).getD i 0
    nextBlock := 0
    pending := [] }

/-- The next word, and the stream after it. -/
def next (s : Keystream) : UInt32 × Keystream :=
  match s.pending with
  | word :: rest => (word, { s with pending := rest })
  | [] =>
    let words := wordsOf s.key s.nextBlock
    (words.headD 0, { s with nextBlock := s.nextBlock + 1, pending := words.tail })

end Keystream

end Tabletop

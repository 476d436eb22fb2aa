/-!
# The stream of random words

A run draws all its random choices from one stream of 32-bit words. The words are the blocks of
the ChaCha stream cipher with twelve rounds, in block order: the key is expanded from a 64-bit seed,
the 64-bit block counter starts at zero and the stream identifier is zero. A generator is therefore
a key and the number of words drawn so far, and `word` gives any word of the stream directly.
-/

namespace RecordRecipe.Random

/-- The sixteen words of a block. -/
abbrev Block := Vector UInt32 16

/-- Rotate a word to the left. -/
def rotateLeft (x : UInt32) (n : UInt32) : UInt32 :=
  (x <<< n) ||| (x >>> (32 - n))

/-- Rotate a word to the right. -/
def rotateRight (x : UInt32) (n : UInt32) : UInt32 :=
  if n = 0 then x else (x >>> n) ||| (x <<< (32 - n))

/-- Mix four words of a block. -/
def quarterRound (s : Block) (a b c d : Fin 16) : Block :=
  let s := s.set a (s[a] + s[b])
  let s := s.set d (rotateLeft (s[d] ^^^ s[a]) 16)
  let s := s.set c (s[c] + s[d])
  let s := s.set b (rotateLeft (s[b] ^^^ s[c]) 12)
  let s := s.set a (s[a] + s[b])
  let s := s.set d (rotateLeft (s[d] ^^^ s[a]) 8)
  let s := s.set c (s[c] + s[d])
  s.set b (rotateLeft (s[b] ^^^ s[c]) 7)

/-- Mix the columns and then the diagonals. -/
def doubleRound (s : Block) : Block :=
  let s := quarterRound s 0 4 8 12
  let s := quarterRound s 1 5 9 13
  let s := quarterRound s 2 6 10 14
  let s := quarterRound s 3 7 11 15
  let s := quarterRound s 0 5 10 15
  let s := quarterRound s 1 6 11 12
  let s := quarterRound s 2 7 8 13
  quarterRound s 3 4 9 14

/-- The block before mixing: constants, key, block counter and a zero stream identifier. -/
def initialBlock (key : Vector UInt32 8) (counter : Nat) : Block :=
  #v[0x61707865, 0x3320646e, 0x79622d32, 0x6b206574,
     key[0], key[1], key[2], key[3], key[4], key[5], key[6], key[7],
     UInt32.ofNat counter, UInt32.ofNat (counter / UInt32.size), 0, 0]

/-- A block of the stream: six double rounds, added to the block before mixing. -/
def block (key : Vector UInt32 8) (counter : Nat) : Block :=
  let start := initialBlock key counter
  let mixed := Nat.repeat doubleRound 6 start
  Vector.zipWith (· + ·) mixed start

/-- The words of the stream in order. -/
def word (key : Vector UInt32 8) (index : Nat) : UInt32 :=
  (block key (index / 16)).get ⟨index % 16, Nat.mod_lt _ (by decide)⟩

/-- One step of the seed expansion. -/
def advanceSeed (state : UInt64) : UInt64 :=
  state * 6364136223846793005 + 11634580027462260723

/-- The key word of a state of the seed expansion. -/
def seedWord (state : UInt64) : UInt32 :=
  rotateRight (((state >>> 18) ^^^ state) >>> 27).toUInt32 (state >>> 59).toUInt32

/-- The states of the seed expansion after one, two, … steps. -/
def seedStates (state : UInt64) : Nat → List UInt64
  | 0 => []
  | n + 1 => advanceSeed state :: seedStates (advanceSeed state) n

/-- The key that a seed is expanded to. -/
def keyOfSeed (seed : UInt64) : Vector UInt32 8 :=
  Vector.ofFn fun i => seedWord ((seedStates seed 8).getD i seed)

/-- A position in the stream of a key. -/
structure Generator where
  key : Vector UInt32 8
  drawn : Nat
deriving DecidableEq

namespace Generator

/-- The start of the stream of a seed. -/
def ofSeed (seed : UInt64) : Generator := ⟨keyOfSeed seed, 0⟩

/-- Draw a word. -/
def draw32 (g : Generator) : UInt32 × Generator :=
  (word g.key g.drawn, { g with drawn := g.drawn + 1 })

/-- Draw two words: the low half first, then the high half. -/
def draw64 (g : Generator) : UInt64 × Generator :=
  let low := word g.key g.drawn
  let high := word g.key (g.drawn + 1)
  (high.toUInt64 <<< 32 ||| low.toUInt64, { g with drawn := g.drawn + 2 })

end Generator

end RecordRecipe.Random

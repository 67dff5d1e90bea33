import ShapeScene.Scene.Identifier

/-!
# Identifiers from a seed

The random blocks of a seeded source are the keystream of the ChaCha cipher with eight rounds,
under a key that a congruential generator makes from the seed. Equal seeds give equal identifiers.
-/

namespace ShapeScene.SeededIds

/-- The state of the generator that makes the key, after one step. -/
def stepSeed (state : UInt64) : UInt64 := state * 6364136223846793005 + 11634580027462260723

/-- A word turned right by a number of bits. -/
def rotateRight (word : UInt32) (count : UInt32) : UInt32 :=
  (word >>> count) ||| (word <<< ((32 - count) % 32))

/-- A word turned left by a number of bits. -/
def rotateLeft (word : UInt32) (count : UInt32) : UInt32 :=
  (word <<< count) ||| (word >>> (32 - count))

/-- The output of the generator at a state: mixed high bits, turned by the five highest. -/
def seedWord (state : UInt64) : UInt32 :=
  rotateRight (((state >>> 18) ^^^ state) >>> 27).toUInt32 (state >>> 59).toUInt32

/-- The next words of the key. -/
def keyWords : (count : Nat) → UInt64 → List UInt32
  | 0, _ => []
  | count + 1, state => seedWord (stepSeed state) :: keyWords count (stepSeed state)

/-- The sixteen words on which the cipher works. -/
abbrev Words := Vector UInt32 16

/-- One quarter round on four of the words. -/
def quarterRound (words : Words) (a b c d : Fin 16) : Words :=
  let wa := words[a] + words[b]
  let wd := rotateLeft (words[d] ^^^ wa) 16
  let wc := words[c] + wd
  let wb := rotateLeft (words[b] ^^^ wc) 12
  let wa := wa + wb
  let wd := rotateLeft (wd ^^^ wa) 8
  let wc := wc + wd
  let wb := rotateLeft (wb ^^^ wc) 7
  (((words.set a wa).set b wb).set c wc).set d wd

/-- A round on the columns and a round on the diagonals. -/
def doubleRound (words : Words) : Words :=
  let words := quarterRound words 0 4 8 12
  let words := quarterRound words 1 5 9 13
  let words := quarterRound words 2 6 10 14
  let words := quarterRound words 3 7 11 15
  let words := quarterRound words 0 5 10 15
  let words := quarterRound words 1 6 11 12
  let words := quarterRound words 2 7 8 13
  quarterRound words 3 4 9 14

/-- The words before the first round: the constant, the key, and the number of the block. -/
def initialWords (key : List UInt32) (number : Nat) : Words :=
  let word (index : Nat) : UInt32 := key.getD index 0
  #v[0x61707865, 0x3320646e, 0x79622d32, 0x6b206574, word 0, word 1, word 2, word 3, word 4,
    word 5, word 6, word 7, UInt32.ofNat number, UInt32.ofNat (number / Nat.pow 2 32), 0, 0]

/-- The words of a keystream block: those after four double rounds added to those before. -/
def keystreamWords (key : List UInt32) (number : Nat) : Words :=
  let initial := initialWords key number
  let final := doubleRound (doubleRound (doubleRound (doubleRound initial)))
  Vector.zipWith (· + ·) initial final

/-- A word with its bytes in reverse order. -/
def swapBytes (word : UInt32) : Nat :=
  let value := word.toNat
  value % 256 * Nat.pow 2 24 + value / 256 % 256 * Nat.pow 2 16 +
    value / Nat.pow 2 16 % 256 * 256 + value / Nat.pow 2 24

/-- The block of sixteen bytes at an index: four words of the keystream, each written with its
least significant byte first. -/
def block (seed : UInt64) (index : Nat) : IdBlock :=
  let words := keystreamWords (keyWords 8 seed) (index / 4)
  let word (offset : Nat) : Nat := swapBytes (words.toList.getD (index % 4 * 4 + offset) 0)
  BitVec.ofNat 128
    (((word 0 * Nat.pow 2 32 + word 1) * Nat.pow 2 32 + word 2) * Nat.pow 2 32 + word 3)

/-- The source of a seed. -/
def source (seed : UInt64) : IdSource := ⟨block seed, 0⟩

end ShapeScene.SeededIds

/-
The stream of random numbers that traces are drawn from: the ChaCha cipher with
eight rounds, keyed by a seed. The stream is a function from positions to numbers,
so a draw is a look at the next position and nothing more. Block numbers have 64
bits and a block yields eight numbers, so the stream repeats after 2^67 of them.
-/

import Allotment.Arithmetic

namespace Allotment.Churn

/-! ### The key of a seed -/

/-- The bits of a word turned to the right. -/
def rotateRight (word amount : UInt32) : UInt32 :=
  word >>> amount ||| word <<< (32 - amount)

/-- The next state of the generator that spreads a seed over a key. -/
def nextSeed (seed : UInt64) : UInt64 :=
  seed * 6364136223846793005 + 11634580027462260723

/-- The word of a key that a state of that generator yields. -/
def seedWord (seed : UInt64) : UInt32 :=
  rotateRight ((seed >>> 18 ^^^ seed) >>> 27).toUInt32 (seed >>> 59).toUInt32

/-- The key of a seed. -/
def keyOfSeed (seed : UInt64) : Vector UInt32 8 :=
  Vector.ofFn fun position => seedWord (Nat.repeat nextSeed (position.val + 1) seed)

/-! ### The block function -/

/-- The sixteen words that a block is mixed from and in. -/
abbrev Mixture := Vector UInt32 16

/-- The bits of a word turned to the left. -/
def rotateLeft (word amount : UInt32) : UInt32 :=
  word <<< amount ||| word >>> (32 - amount)

/-- Adds one word to another and mixes the sum into a third one. -/
def mixInto (mixture : Mixture) (sum addend target : Fin 16) (amount : UInt32) : Mixture :=
  let added := mixture.set sum (mixture[sum] + mixture[addend])
  added.set target (rotateLeft (added[target] ^^^ added[sum]) amount)

/-- Mixes four words. -/
def quarterRound (mixture : Mixture) (first second third fourth : Fin 16) : Mixture :=
  let mixture := mixInto mixture first second fourth 16
  let mixture := mixInto mixture third fourth second 12
  let mixture := mixInto mixture first second fourth 8
  mixInto mixture third fourth second 7

/-- Two rounds: the columns of the square of words, then its diagonals. -/
def doubleRound (mixture : Mixture) : Mixture :=
  let mixture := quarterRound mixture 0 4 8 12
  let mixture := quarterRound mixture 1 5 9 13
  let mixture := quarterRound mixture 2 6 10 14
  let mixture := quarterRound mixture 3 7 11 15
  let mixture := quarterRound mixture 0 5 10 15
  let mixture := quarterRound mixture 1 6 11 12
  let mixture := quarterRound mixture 2 7 8 13
  quarterRound mixture 3 4 9 14

/-- The words before mixing: four constants, the key, the number of the block with its low
half first, and two zero words. -/
def blockInput (key : Vector UInt32 8) (number : UInt64) : Mixture :=
  #v[0x61707865, 0x3320646e, 0x79622d32, 0x6b206574,
    key[0], key[1], key[2], key[3], key[4], key[5], key[6], key[7],
    number.toUInt32, (number >>> 32).toUInt32, 0, 0]

/-- A block: the mixed words, each added to the word before mixing. -/
def block (key : Vector UInt32 8) (number : UInt64) : Mixture :=
  let input := blockInput key number
  Vector.zipWith (· + ·) input (Nat.repeat doubleRound 4 input)

/-! ### The stream -/

/-- How many numbers a block yields. -/
def numbersPerBlock : Nat := 8

/-- How many numbers the stream has before it repeats. -/
def period : Nat := 2 ^ 64 * numbersPerBlock

/-- The number at a position of the stream: two words of a block, the low one first. -/
def numberAt (key : Vector UInt32 8) (position : Nat) : UInt64 :=
  let words := block key (UInt64.ofNat (position / numbersPerBlock))
  let place := position % numbersPerBlock * 2
  (words.getD place 0).toUInt64 ||| (words.getD (place + 1) 0).toUInt64 <<< 32

/-- A stream read up to a position. -/
structure Draws where
  key : Vector UInt32 8
  taken : Nat

/-- The stream of a seed, not yet read. -/
def Draws.ofSeed (seed : UInt64) : Draws :=
  ⟨keyOfSeed seed, 0⟩

/-- Reads the next number. -/
def Draws.next (draws : Draws) : UInt64 × Draws :=
  (numberAt draws.key draws.taken, { draws with taken := draws.taken + 1 })

end Allotment.Churn

/-
Where blocks may start: at any word, or at even words only.
-/

import Allotment.Outcome.Checked

namespace Allotment

/-- The unit that offsets of blocks are multiples of. -/
inductive Alignment where
  | word
  | doubleWord
deriving DecidableEq

namespace Alignment

/-- The unit in words. -/
def words : Alignment → Nat
  | word => 1
  | doubleWord => 2

/-- The first multiple of the unit at or after an offset. -/
def roundUp (alignment : Alignment) (offset : Nat) : Nat :=
  (offset + (alignment.words - 1)) / alignment.words * alignment.words

/-- The same for an offset that a caller supplies: the padding is added before it is cut
off again, so an offset near the limit of sizes is a fault. -/
def alignUp (alignment : Alignment) (offset : Nat) : Except Fault Nat :=
  (addSizes offset (alignment.words - 1)).map fun _ => alignment.roundUp offset

@[simp] theorem roundUp_word (offset : Nat) : word.roundUp offset = offset := by
  simp [roundUp, words]

theorem le_roundUp (alignment : Alignment) (offset : Nat) :
    offset ≤ alignment.roundUp offset := by
  cases alignment <;> simp only [roundUp, words] <;> omega

theorem words_dvd_roundUp (alignment : Alignment) (offset : Nat) :
    alignment.words ∣ alignment.roundUp offset :=
  Nat.dvd_mul_left _ _

/-- An offset that is a multiple of the unit needs no padding. -/
theorem roundUp_of_dvd (alignment : Alignment) (offset : Nat)
    (aligned : alignment.words ∣ offset) : alignment.roundUp offset = offset := by
  obtain ⟨count, rfl⟩ := aligned
  cases alignment <;> simp only [roundUp, words] <;> omega

end Alignment

end Allotment

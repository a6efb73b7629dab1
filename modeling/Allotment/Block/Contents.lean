/-
Reading and overwriting a range of words. Both are stated pointwise: a read lists
the words of the range in order, and an overwrite takes a patch, which gives the
new word at some positions of the range and leaves the others alone.
-/

import Allotment.Block.Handle

namespace Allotment

/-- New words for some positions of a range, counted from its start. -/
abbrev Patch := Nat → Option Word

namespace Patch

/-- Every position gets the same word. -/
def constant (word : Word) : Patch :=
  fun _ => some word

/-- The positions from the start get the given words, one each. -/
def ofArray (words : Array Word) : Patch :=
  fun position => words[position]?

/-- The first position alone gets a word. -/
def first (word : Word) : Patch :=
  fun position => if position = 0 then some word else none

end Patch

/-- The words at positions `start` to `start + size`, in order. -/
def readRange (words : Array Word) (start size : Nat) : List Word :=
  (words.extract start (start + size)).toList

/-- Overwrites the range from `start` to `start + size` by a patch. -/
def patchRange (words : Array Word) (start size : Nat) (patch : Patch) : Array Word :=
  words.mapIdx fun position word =>
    if start ≤ position ∧ position < start + size then (patch (position - start)).getD word
    else word

theorem length_readRange (words : Array Word) (start size : Nat)
    (inside : start + size ≤ words.size) : (readRange words start size).length = size := by
  rw [readRange, Array.length_toList, Array.size_extract]
  omega

theorem getElem?_readRange (words : Array Word) (start size position : Nat) :
    (readRange words start size)[position]? =
      if position < size then words[start + position]? else none := by
  unfold readRange
  rw [Array.getElem?_toList, Array.getElem?_extract]
  by_cases below : position < size
  · by_cases inside : start + position < words.size
    · rw [if_pos (by omega), if_pos below]
    · rw [if_neg (by omega), if_pos below, Array.getElem?_eq_none (by omega)]
  · rw [if_neg (by omega), if_neg below]

@[simp] theorem size_patchRange (words : Array Word) (start size : Nat) (patch : Patch) :
    (patchRange words start size patch).size = words.size := by
  rw [patchRange, Array.size_mapIdx]

/-- A word outside the range is kept. -/
theorem getElem?_patchRange_other (words : Array Word) (start size : Nat) (patch : Patch)
    (position : Nat) (outside : position < start ∨ start + size ≤ position) :
    (patchRange words start size patch)[position]? = words[position]? := by
  unfold patchRange
  rw [Array.getElem?_mapIdx]
  cases words[position]? with
  | none => rfl
  | some word =>
    rw [Option.map_some, if_neg (by omega)]

end Allotment

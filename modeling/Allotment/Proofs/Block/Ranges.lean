/-
Ranges of words after other words changed. Words that are added behind a range, or
overwritten outside of it, do not show in it; what is overwritten from its start on
shows as an overlay.
-/

import Allotment.Block.Contents

namespace Allotment

/-- Words with the first `size` of them overwritten by a patch. -/
def overlay (contents : List Word) (size : Nat) (patch : Patch) : List Word :=
  contents.mapIdx fun position word =>
    if position < size then (patch position).getD word else word

@[simp] theorem length_overlay (contents : List Word) (size : Nat) (patch : Patch) :
    (overlay contents size patch).length = contents.length := by
  rw [overlay, List.length_mapIdx]

@[simp] theorem overlay_zero (contents : List Word) (patch : Patch) :
    overlay contents 0 patch = contents := by
  refine List.ext_getElem? fun position => ?_
  rw [overlay, List.getElem?_mapIdx]
  cases contents[position]? with
  | none => rfl
  | some word => rw [Option.map_some, if_neg (Nat.not_lt_zero position)]

/-- Overwriting every word by one and the same leaves copies of it. -/
theorem overlay_constant (contents : List Word) (word : Word) :
    overlay contents contents.length (.constant word) =
      List.replicate contents.length word := by
  refine List.ext_getElem? fun position => ?_
  rw [overlay, List.getElem?_mapIdx, List.getElem?_replicate]
  by_cases inside : position < contents.length
  · rw [List.getElem?_eq_getElem inside, Option.map_some, if_pos inside, if_pos inside]
    rfl
  · rw [List.getElem?_eq_none (Nat.le_of_not_lt inside), if_neg inside]
    rfl

/-- Words added behind a range do not show in it. -/
theorem readRange_append_left (words added : Array Word) (start size : Nat)
    (inside : start + size ≤ words.size) :
    readRange (words ++ added) start size = readRange words start size := by
  refine List.ext_getElem? fun position => ?_
  rw [getElem?_readRange, getElem?_readRange]
  by_cases below : position < size
  · rw [if_pos below, if_pos below, Array.getElem?_append_left (by omega)]
  · rw [if_neg below, if_neg below]

/-- A range of added words reads as they do. -/
theorem readRange_append_replicate (words : Array Word) (word : Word)
    (count start size : Nat) (behind : words.size ≤ start)
    (inside : start + size ≤ words.size + count) :
    readRange (words ++ Array.replicate count word) start size =
      List.replicate size word := by
  refine List.ext_getElem? fun position => ?_
  rw [getElem?_readRange, List.getElem?_replicate]
  by_cases below : position < size
  · rw [if_pos below, if_pos below, Array.getElem?_append_right (by omega),
      Array.getElem?_replicate, if_pos (by omega)]
  · rw [if_neg below, if_neg below]

/-- Words of a range after some words were overwritten, position by position. -/
theorem readRange_patchRange (words : Array Word) (start size : Nat) (patch : Patch)
    (place count : Nat) :
    readRange (patchRange words start size patch) place count =
      (readRange words place count).mapIdx fun position word =>
        if start ≤ place + position ∧ place + position < start + size then
          (patch (place + position - start)).getD word
        else word := by
  refine List.ext_getElem? fun position => ?_
  rw [List.getElem?_mapIdx, getElem?_readRange, getElem?_readRange]
  by_cases below : position < count
  · rw [if_pos below, if_pos below, patchRange, Array.getElem?_mapIdx]
  · rw [if_neg below, if_neg below]
    rfl

/-- Words overwritten outside of a range do not show in it. -/
theorem readRange_patchRange_other (words : Array Word) (start size : Nat) (patch : Patch)
    (place count : Nat) (outside : place + count ≤ start ∨ start + size ≤ place) :
    readRange (patchRange words start size patch) place count = readRange words place count := by
  refine List.ext_getElem? fun position => ?_
  rw [getElem?_readRange, getElem?_readRange]
  by_cases below : position < count
  · rw [if_pos below, if_pos below,
      getElem?_patchRange_other words start size patch _ (by omega)]
  · rw [if_neg below, if_neg below]

/-- Words overwritten from the start of a range on show as an overlay. -/
theorem readRange_patchRange_self (words : Array Word) (start size : Nat) (patch : Patch)
    (count : Nat) :
    readRange (patchRange words start size patch) start count =
      overlay (readRange words start count) size patch := by
  rw [readRange_patchRange, overlay]
  refine congrArg (List.mapIdx · _) (funext fun position => funext fun word => ?_)
  by_cases written : position < size
  · rw [if_pos (by omega), if_pos written, Nat.add_sub_cancel_left]
  · rw [if_neg (by omega), if_neg written]

end Allotment

/-
Words and the handles that name them. A handle is three numbers: the chunk that
holds the words, the offset of the first word in that chunk, and the epoch in
which the handle was issued. It says nothing about how many words it stands for,
so a loan is a handle together with a size: a `Block`.
-/

import Allotment.Arithmetic
import Allotment.Text.Record

namespace Allotment

/-- The unit of allocation. -/
abbrev Word := UInt32

/-- How many bytes a word takes. -/
def bytesPerWord : Nat := 4

/-- The largest number that a field of a handle holds. -/
def fieldLimit : Nat := 2 ^ 32 - 1

/-- The name of a run of words: where it starts, and the epoch it belongs to. -/
structure Handle where
  chunk : UInt32
  offset : UInt32
  epoch : UInt32
deriving DecidableEq, Inhabited

/-- A handle with the number of words it stands for. -/
structure Block where
  handle : Handle
  size : Nat
deriving DecidableEq, Inhabited

namespace Handle

/-- The text of a handle in messages. -/
def text (handle : Handle) : String :=
  s!"WordHandle(chunk={handle.chunk}, off={handle.offset}, epoch={handle.epoch})"

/-- The text of a handle as a record. -/
def recordText (handle : Handle) : String :=
  Text.record "WordHandle" [("chunk", toString handle.chunk),
    ("offset", toString handle.offset), ("epoch", toString handle.epoch)]

/-- Two handles start at the same place, whatever their epochs. -/
def SamePlace (first second : Handle) : Prop :=
  first.chunk = second.chunk ∧ first.offset = second.offset

instance (first second : Handle) : Decidable (first.SamePlace second) :=
  inferInstanceAs (Decidable (_ ∧ _))

/-- The order of handles: by chunk, then by offset, then by epoch. -/
def precedes (first second : Handle) : Bool :=
  first.chunk < second.chunk || first.chunk == second.chunk &&
    (first.offset < second.offset || first.offset == second.offset &&
      first.epoch < second.epoch)

theorem SamePlace.refl (handle : Handle) : handle.SamePlace handle :=
  ⟨rfl, rfl⟩

/-- Two handles of one place and one epoch are the same handle. -/
theorem SamePlace.eq {first second : Handle} (place : first.SamePlace second)
    (epoch : first.epoch = second.epoch) : first = second := by
  obtain ⟨chunk, offset, _⟩ := first
  obtain ⟨rfl, rfl⟩ := place
  cases epoch
  rfl

end Handle

end Allotment

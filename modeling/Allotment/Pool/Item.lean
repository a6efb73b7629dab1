/-
What an item pool has to know about its items: how large they are, alone and in a
cell that may instead hold a link of the free list. Two kinds of items that a
search over zones keeps in pools are defined here too.
-/

import Allotment.Outcome.Checked

namespace Allotment

/-- A cell of an item pool: it holds an item, or the number of the next free cell. -/
inductive Cell (α : Type) where
  | vacant (next : Option Nat)
  | occupied (item : α)
deriving DecidableEq

/-- How many bytes items and cells of a type take. -/
class ItemLayout (α : Type) where
  itemBytes : Nat
  cellBytes : Nat

/-- How many bytes a link of the free list takes. -/
def linkBytes : Nat := 8

/-- A node of a search: the hash of its state, how deep it is, and the node it was reached
from. -/
structure SearchNode where
  stateHash : UInt64
  depth : UInt32
  parent : Option UInt32
deriving DecidableEq

/-- A node that was reached from no other. -/
def SearchNode.root (stateHash : UInt64) (depth : UInt32) : SearchNode :=
  ⟨stateHash, depth, none⟩

/-- A zone at a location, given by its bounds. -/
structure ZoneRecord where
  location : UInt32
  bounds : List Int
deriving DecidableEq

/-- How many bounds a zone has. -/
def boundCount : Nat := 9

/-- The largest bound; bounds are counted in 32 bits. -/
def largestBound : Int := 2 ^ 31 - 1

/-- A zone whose bounds count up from a seed. -/
def ZoneRecord.seeded (location : UInt32) (seed : Int) : Except Fault ZoneRecord :=
  if seed + (boundCount - 1) ≤ largestBound then
    .ok ⟨location, (List.range boundCount).map fun (index : Nat) => seed + index⟩
  else .error .sumOverflow

instance : ItemLayout SearchNode := ⟨24, 24⟩
instance : ItemLayout ZoneRecord := ⟨40, 48⟩
instance : ItemLayout UInt64 := ⟨8, 16⟩
instance : ItemLayout String := ⟨24, 24⟩
instance : ItemLayout UInt16 := ⟨2, 16⟩
instance : ItemLayout UInt32 := ⟨4, 16⟩
instance : ItemLayout Unit := ⟨0, 16⟩

end Allotment

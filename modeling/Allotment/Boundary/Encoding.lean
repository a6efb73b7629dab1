/-
How handles and keys cross the boundary as plain numbers: two 32-bit numbers are
packed into one of 64 bits, the first in the high half. Every number of 64 bits is
the packing of exactly one pair.
-/

import Allotment.Block.Handle

namespace Allotment

/-- Two 32-bit numbers in one of 64 bits. -/
def packHalves (high low : UInt32) : UInt64 :=
  high.toUInt64 <<< 32 ||| low.toUInt64

/-- The high half of a number. -/
def highHalf (packed : UInt64) : UInt32 :=
  (packed >>> 32).toUInt32

/-- The low half of a number. -/
def lowHalf (packed : UInt64) : UInt32 :=
  packed.toUInt32

/-- The packing of two halves is a number with these two digits to the base 2^32. -/
theorem toNat_packHalves (high low : UInt32) :
    (packHalves high low).toNat = high.toNat * 2 ^ 32 + low.toNat := by
  have small := high.toNat_lt
  have shifted : high.toNat <<< 32 % 2 ^ 64 = high.toNat * 2 ^ 32 := by
    rw [Nat.shiftLeft_eq, Nat.mod_eq_of_lt (by omega)]
  have apart := Nat.shiftLeft_add_eq_or_of_lt low.toNat_lt high.toNat
  rw [Nat.shiftLeft_eq] at apart
  rw [packHalves, UInt64.toNat_or, UInt64.toNat_shiftLeft, UInt32.toNat_toUInt64,
    UInt32.toNat_toUInt64, apart]
  exact congrArg (· ||| low.toNat) shifted

theorem toNat_highHalf (packed : UInt64) : (highHalf packed).toNat = packed.toNat / 2 ^ 32 := by
  have small := packed.toNat_lt
  have shifted : packed.toNat >>> 32 = packed.toNat / 2 ^ 32 := Nat.shiftRight_eq_div_pow _ _
  rw [highHalf, UInt64.toNat_toUInt32, UInt64.toNat_shiftRight]
  show packed.toNat >>> 32 % 2 ^ 32 = _
  rw [shifted, Nat.mod_eq_of_lt (by omega)]

theorem toNat_lowHalf (packed : UInt64) : (lowHalf packed).toNat = packed.toNat % 2 ^ 32 :=
  UInt64.toNat_toUInt32 packed

theorem highHalf_packHalves (high low : UInt32) : highHalf (packHalves high low) = high := by
  have small := low.toNat_lt
  apply UInt32.toNat_inj.mp
  rw [toNat_highHalf, toNat_packHalves]
  omega

theorem lowHalf_packHalves (high low : UInt32) : lowHalf (packHalves high low) = low := by
  have small := low.toNat_lt
  apply UInt32.toNat_inj.mp
  rw [toNat_lowHalf, toNat_packHalves]
  omega

theorem packHalves_halves (packed : UInt64) :
    packHalves (highHalf packed) (lowHalf packed) = packed := by
  apply UInt64.toNat_inj.mp
  rw [toNat_packHalves, toNat_highHalf, toNat_lowHalf]
  omega

/-- A handle as it crosses the boundary: its place as one number, and its epoch. -/
structure BlockReference where
  location : UInt64
  epoch : UInt32
deriving DecidableEq, Inhabited

namespace BlockReference

/-- The reference for a handle. -/
def ofHandle (handle : Handle) : BlockReference :=
  ⟨packHalves handle.chunk handle.offset, handle.epoch⟩

/-- The handle of a reference. -/
def handle (reference : BlockReference) : Handle :=
  ⟨highHalf reference.location, lowHalf reference.location, reference.epoch⟩

@[simp] theorem handle_ofHandle (handle : Handle) : (ofHandle handle).handle = handle := by
  rw [BlockReference.handle, ofHandle, highHalf_packHalves, lowHalf_packHalves]

@[simp] theorem ofHandle_handle (reference : BlockReference) :
    ofHandle reference.handle = reference := by
  rw [BlockReference.handle, ofHandle, packHalves_halves]

end BlockReference

/-- The key of an allocator: the number of its entry, and the generation of the entry. -/
structure Key where
  index : UInt32
  generation : UInt32
deriving DecidableEq

namespace Key

/-- The key as one number. -/
def pack (key : Key) : UInt64 :=
  packHalves key.index key.generation

/-- The key that a number stands for. -/
def unpack (packed : UInt64) : Key :=
  ⟨highHalf packed, lowHalf packed⟩

@[simp] theorem unpack_pack (key : Key) : unpack key.pack = key := by
  rw [unpack, pack, highHalf_packHalves, lowHalf_packHalves]

@[simp] theorem pack_unpack (packed : UInt64) : (unpack packed).pack = packed :=
  packHalves_halves packed

end Key

end Allotment

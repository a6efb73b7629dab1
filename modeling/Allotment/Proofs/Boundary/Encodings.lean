/-
The plain numbers that cross the boundary name handles and keys without loss and without
choice. A caller may pass any number it likes, so both directions count: what was encoded is
decoded again, and every number is the encoding of what it decodes to.

Two inverse functions could still agree on the wrong format. So decoding is also told by the
number itself: its two digits to the base 2^32 are the chunk and the offset of a handle, or the
entry and the generation of a key.
-/

import Allotment.Boundary.Encoding
import Mathlib.Logic.Function.Basic

namespace Allotment

/-- A number is the packing of two halves exactly when they are its digits. -/
theorem packHalves_eq_iff (packed : UInt64) (high low : UInt32) :
    packHalves high low = packed ↔ packed.toNat = high.toNat * 2 ^ 32 + low.toNat := by
  rw [← UInt64.toNat_inj, toNat_packHalves]
  exact eq_comm

namespace BlockReference

/-- References and handles are in one-to-one correspondence. -/
theorem bijective_ofHandle : Function.Bijective ofHandle :=
  Function.bijective_iff_has_inverse.mpr ⟨handle, handle_ofHandle, ofHandle_handle⟩

/-- A reference names the handle whose chunk and offset are the digits of its location. -/
theorem handle_eq_iff (reference : BlockReference) (handle : Handle) :
    reference.handle = handle ↔
      reference.location.toNat = handle.chunk.toNat * 2 ^ 32 + handle.offset.toNat ∧
        reference.epoch = handle.epoch := by
  rw [← packHalves_eq_iff]
  constructor
  · rintro rfl
    exact ⟨packHalves_halves reference.location, rfl⟩
  · rintro ⟨place, epoch⟩
    have encoded : ofHandle handle = reference := by rw [ofHandle, place, ← epoch]
    rw [← encoded, handle_ofHandle]

end BlockReference

namespace Key

/-- Keys and numbers of 64 bits are in one-to-one correspondence. -/
theorem bijective_pack : Function.Bijective pack :=
  Function.bijective_iff_has_inverse.mpr ⟨unpack, unpack_pack, pack_unpack⟩

/-- A number stands for the key whose entry and generation are its digits. -/
theorem unpack_eq_iff (packed : UInt64) (key : Key) :
    unpack packed = key ↔
      packed.toNat = key.index.toNat * 2 ^ 32 + key.generation.toNat := by
  rw [← packHalves_eq_iff]
  constructor
  · rintro rfl
    exact pack_unpack packed
  · rintro rfl
    exact unpack_pack key

end Key

/-- Handles and the references that cross the boundary for them decode to each other in both
directions, and so do keys and numbers of 64 bits. No two handles and no two keys have the same
encoding, everything that a caller can pass is the encoding of one of them, and which one is told
by the digits of the number. -/
theorem encodings_invert :
    (∀ handle, (BlockReference.ofHandle handle).handle = handle) ∧
      (∀ reference : BlockReference, .ofHandle reference.handle = reference) ∧
      (∀ key : Key, .unpack key.pack = key) ∧
      (∀ packed, (Key.unpack packed).pack = packed) ∧
      Function.Bijective BlockReference.ofHandle ∧ Function.Bijective Key.pack ∧
      (∀ (reference : BlockReference) (handle : Handle), reference.handle = handle ↔
        reference.location.toNat = handle.chunk.toNat * 2 ^ 32 + handle.offset.toNat ∧
          reference.epoch = handle.epoch) ∧
      ∀ packed key, Key.unpack packed = key ↔
        packed.toNat = key.index.toNat * 2 ^ 32 + key.generation.toNat :=
  ⟨BlockReference.handle_ofHandle, BlockReference.ofHandle_handle, Key.unpack_pack,
    Key.pack_unpack, BlockReference.bijective_ofHandle, Key.bijective_pack,
    BlockReference.handle_eq_iff, Key.unpack_eq_iff⟩

end Allotment

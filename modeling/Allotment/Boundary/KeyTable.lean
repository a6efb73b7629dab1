/-
A table of values under keys that are never issued twice. An entry whose value was
removed goes on a free list that is threaded through the entries, and comes back
under the next generation; an entry whose generations ran out is retired.
-/

import Allotment.Boundary.Encoding
import Allotment.Outcome.Fault

namespace Allotment

/-- An entry of a key table. A vacant entry names the next vacant one. -/
inductive Entry (α : Type) where
  | occupied (generation : UInt32) (value : α)
  | vacant (generation : UInt32) (next : Option UInt32)
  | retired
deriving DecidableEq

/-- Entries, the vacant entry that is used first, and the number of values. -/
structure KeyTable (α : Type) where
  entries : Array (Entry α)
  freeHead : Option UInt32
  live : Nat
deriving DecidableEq

namespace KeyTable

variable {α : Type}

/-- The table without values. -/
def empty : KeyTable α := ⟨#[], none, 0⟩

/-- Puts a value into the table and answers its key. There is no key for it when all entries
that a key can name are in use. -/
def insert (table : KeyTable α) (value : α) : Except Fault (Option (UInt64 × KeyTable α)) :=
  match table.freeHead with
  | some index =>
    match table.entries[index.toNat]? with
    | none => .error (.indexPastEnd index.toNat table.entries.size)
    | some (.vacant generation next) =>
      .ok (some (Key.pack ⟨index, generation⟩,
        { entries := table.entries.setIfInBounds index.toNat (.occupied generation value)
          freeHead := next
          live := table.live + 1 }))
    | some _ => .error (.freeEntryNotVacant index.toNat)
  | none =>
    if fieldLimit < table.entries.size then .ok none
    else
      .ok (some (Key.pack ⟨table.entries.size.toUInt32, 0⟩,
        { table with
          entries := table.entries.push (.occupied 0 value)
          live := table.live + 1 }))

/-- The value under a key. -/
def get? (table : KeyTable α) (packed : UInt64) : Option α :=
  match table.entries[(Key.unpack packed).index.toNat]? with
  | some (.occupied generation value) =>
    if generation = (Key.unpack packed).generation then some value else none
  | _ => none

/-- Puts another value under a key that has one. -/
def update (table : KeyTable α) (packed : UInt64) (value : α) : KeyTable α :=
  match table.get? packed with
  | none => table
  | some _ =>
    let key := Key.unpack packed
    { table with
      entries := table.entries.setIfInBounds key.index.toNat (.occupied key.generation value) }

/-- What becomes of an entry when the value under a key is removed. -/
def emptied (table : KeyTable α) (key : Key) : Entry α :=
  if key.generation + 1 = 0 then .retired else .vacant (key.generation + 1) table.freeHead

/-- Removes the value under a key and answers it. -/
def remove (table : KeyTable α) (packed : UInt64) : Except Fault (Option (α × KeyTable α)) :=
  match table.get? packed with
  | none => .ok none
  | some value =>
    let key := Key.unpack packed
    if table.live = 0 then .error .differenceUnderflow
    else
      .ok (some (value,
        { entries := table.entries.setIfInBounds key.index.toNat (table.emptied key)
          freeHead := if key.generation + 1 = 0 then table.freeHead else some key.index
          live := table.live - 1 }))

/-- A value is under a key exactly when the key's entry holds it in the key's generation. -/
theorem get?_eq_some_iff (table : KeyTable α) (packed : UInt64) (value : α) :
    table.get? packed = some value ↔
      table.entries[(Key.unpack packed).index.toNat]? =
        some (.occupied (Key.unpack packed).generation value) := by
  unfold get?
  split
  · next generation found same =>
    rw [same]
    by_cases current : generation = (Key.unpack packed).generation
    · subst current
      rw [if_pos rfl, Option.some_inj, Option.some_inj, Entry.occupied.injEq]
      exact ⟨fun equal => ⟨rfl, equal⟩, fun equal => equal.2⟩
    · rw [if_neg current, Option.some_inj, Entry.occupied.injEq]
      exact ⟨nofun, fun equal => absurd equal.1 current⟩
  · next other =>
    exact ⟨nofun, fun equal => absurd equal (other _ _)⟩

/-- Another value under a key is the one found there. -/
theorem get?_update_self (table : KeyTable α) (packed : UInt64) (old value : α)
    (present : table.get? packed = some old) :
    (table.update packed value).get? packed = some value := by
  have entry := (table.get?_eq_some_iff packed old).mp present
  obtain ⟨inside, _⟩ := Array.getElem?_eq_some_iff.mp entry
  rw [get?_eq_some_iff, update, present]
  exact Array.getElem?_setIfInBounds_self_of_lt inside

/-- Another value under one key leaves what every other key says. -/
theorem get?_update_other (table : KeyTable α) (packed other : UInt64) (value : α)
    (different : packed ≠ other) : (table.update packed value).get? other = table.get? other := by
  unfold update
  cases present : table.get? packed with
  | none => rfl
  | some old =>
    have entry := (table.get?_eq_some_iff packed old).mp present
    apply Option.ext
    intro found
    rw [get?_eq_some_iff, get?_eq_some_iff]
    by_cases shared : (Key.unpack packed).index.toNat = (Key.unpack other).index.toNat
    · have index : (Key.unpack packed).index = (Key.unpack other).index :=
        UInt32.toNat_inj.mp shared
      have generation : (Key.unpack packed).generation ≠ (Key.unpack other).generation := by
        intro same
        apply different
        rw [← Key.pack_unpack packed, ← Key.pack_unpack other, Key.pack, Key.pack, index, same]
      obtain ⟨inside, _⟩ := Array.getElem?_eq_some_iff.mp entry
      rw [← shared, entry, Array.getElem?_setIfInBounds_self_of_lt inside, Option.some_inj,
        Option.some_inj, Entry.occupied.injEq, Entry.occupied.injEq]
      exact ⟨fun equal => absurd equal.1 generation, fun equal => absurd equal.1 generation⟩
    · rw [Array.getElem?_setIfInBounds_ne shared]

end KeyTable

end Allotment

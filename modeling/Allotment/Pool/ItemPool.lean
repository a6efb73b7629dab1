/-
The item pool: items of one type in cells of equal size, in pools of a fixed number
of cells. The free cells form a list that is threaded through the cells themselves,
so a free cell costs nothing but its place; the cell freed last is used first. A
reset drops all items and begins a new epoch.
-/

import Allotment.Memory
import Allotment.Outcome.Step
import Allotment.Pool.Item
import Allotment.Pool.ItemUsage

namespace Allotment

/-- The number of cells in a pool. -/
structure ItemConfig where
  itemsPerPool : Nat := 2 ^ 17
deriving DecidableEq

/-- A pool has more than one cell. -/
def ItemConfig.validate (config : ItemConfig) : Except Refusal Unit :=
  if config.itemsPerPool ≤ 1 then
    .error (.invalidConfig s!"items_per_pool must be > 1 (got {config.itemsPerPool})")
  else .ok ()

/-- The name of an item: its cell, and the epoch in which it was stored. -/
structure ItemHandle where
  cell : Nat
  epoch : UInt32
deriving DecidableEq, Inhabited

namespace ItemHandle

/-- The text of an item's handle. -/
def text (handle : ItemHandle) : String :=
  s!"ItemHandle(cell={handle.cell}, epoch={handle.epoch})"

/-- The order of item handles: by cell, then by epoch. -/
def precedes (first second : ItemHandle) : Bool :=
  first.cell < second.cell || first.cell == second.cell && first.epoch < second.epoch

end ItemHandle

/-- An item that could not be stored, given back with the cause. -/
structure ReturnedItem (α : Type) where
  cause : Refusal
  item : α
deriving DecidableEq

/-- The cause as a record that leaves the item out. -/
def ReturnedItem.recordText {α : Type} (returned : ReturnedItem α) : String :=
  Text.openRecord "ItemAllocError" [("error", returned.cause.recordText)]

/-- Pools of cells, the first free cell, and the number of items stored. -/
structure ItemPool (α : Type) where
  pools : Array (Array (Cell α))
  itemsPerPool : Nat
  freeHead : Option Nat
  live : Nat
  epoch : UInt32
deriving DecidableEq

namespace ItemPool

variable {α : Type}

/-- A pool without cells. -/
def empty (itemsPerPool : Nat) : ItemPool α := ⟨#[], itemsPerPool, none, 0, 0⟩

/-- A pool for a configuration that keeps the rule and for items that are large enough to
leave room for a link. -/
def create (α : Type) [layout : ItemLayout α] (config : ItemConfig) :
    Except Refusal (ItemPool α) :=
  match config.validate with
  | .error cause => .error cause
  | .ok () =>
    if layout.itemBytes < linkBytes then .error (.itemTooSmall layout.itemBytes linkBytes)
    else .ok (empty config.itemsPerPool)

/-- How many cells there are. -/
def capacity (pool : ItemPool α) : Nat :=
  pool.pools.size * pool.itemsPerPool

/-- How many cells hold no item. -/
def freeCount (pool : ItemPool α) : Nat :=
  pool.capacity - pool.live

/-- The contents of a cell; cells are numbered through all pools. -/
def cell? (pool : ItemPool α) (index : Nat) : Option (Cell α) :=
  (pool.pools[index / pool.itemsPerPool]?).bind fun cells => cells[index % pool.itemsPerPool]?

/-- The pools with other contents in one cell. -/
def setCell (pool : ItemPool α) (index : Nat) (contents : Cell α) : Array (Array (Cell α)) :=
  pool.pools.modify (index / pool.itemsPerPool) fun cells =>
    cells.setIfInBounds (index % pool.itemsPerPool) contents

/-- The cells of a new pool: each one links to the next, and the last one to none. -/
def freshCells (base count : Nat) : Array (Cell α) :=
  Array.ofFn fun position : Fin count =>
    .vacant (if position.val + 1 < count then some (base + position.val + 1) else none)

/-- The event of a new pool. -/
def grewEvent (pool : ItemPool α) : Event where
  level := .debug
  message := "item pool grew"
  fields := [("pool", toString pool.pools.size), ("cells", toString pool.itemsPerPool)]

/-- Makes sure that there is a free cell, with one more pool if that is needed; answers the
first free cell. The pool takes its cells and an entry in the list of pools. -/
def ensure (memory : Memory) (pool : ItemPool α) : Step (ItemPool α) (Except Refusal Nat) :=
  match pool.freeHead with
  | some head => .granted head pool
  | none =>
    if memory.grantsCells pool.itemsPerPool ∧ memory.grantsEntry pool.pools.size then
      .done (.ok pool.capacity)
        { pool with
          pools := pool.pools.push (freshCells pool.capacity pool.itemsPerPool)
          freeHead := some pool.capacity } [pool.grewEvent]
    else .refused (.outOfMemory pool.itemsPerPool) pool

/-- Stores an item in a free cell. -/
def occupy (pool : ItemPool α) (index : Nat) (item : α) : Step (ItemPool α) ItemHandle :=
  match pool.cell? index with
  | none => .fault (.indexPastEnd index pool.capacity) []
  | some (.occupied _) => .fault (.freeCellOccupied index) []
  | some (.vacant next) =>
    .done ⟨index, pool.epoch⟩
      { pool with
        pools := pool.setCell index (.occupied item)
        freeHead := next
        live := pool.live + 1 } []

/-- Stores an item in the first free cell, or gives it back if there is none and no memory
for more. -/
def allocate (memory : Memory) (pool : ItemPool α) (item : α) :
    Step (ItemPool α) (Except (ReturnedItem α) ItemHandle) :=
  (pool.ensure memory).andThen fun answer next =>
    match answer with
    | .error cause => .done (.error ⟨cause, item⟩) next []
    | .ok index => (next.occupy index item).mapAnswer .ok

/-- The item of a handle. -/
def get? (pool : ItemPool α) (handle : ItemHandle) : Option α :=
  if handle.epoch ≠ pool.epoch then none
  else
    match pool.cell? handle.cell with
    | some (.occupied item) => some item
    | _ => none

/-- Replaces the item of a handle; answers the old one. -/
def replace? (pool : ItemPool α) (handle : ItemHandle) (item : α) :
    Option (α × ItemPool α) :=
  (pool.get? handle).map fun old =>
    (old, { pool with pools := pool.setCell handle.cell (.occupied item) })

/-- Replaces the item of a handle by one that is made only if the handle has an item. -/
def replaceWith? (pool : ItemPool α) (handle : ItemHandle) (made : Except Fault α) :
    Except Fault (Option (α × ItemPool α)) :=
  if (pool.get? handle).isSome then made.map (pool.replace? handle) else .ok none

/-- Takes the item of a handle out, and frees its cell; nothing happens if the handle has no
item. -/
def deallocate (pool : ItemPool α) (handle : ItemHandle) : Step (ItemPool α) (Option α) :=
  match pool.get? handle with
  | none => .done none pool []
  | some item =>
    if pool.live = 0 then .fault .differenceUnderflow []
    else
      .done (some item)
        { pool with
          pools := pool.setCell handle.cell (.vacant pool.freeHead)
          freeHead := some handle.cell
          live := pool.live - 1 } []

/-- The event of a reset. -/
def resetEvent (pool : ItemPool α) : Event where
  level := .debug
  message := "item pool reset"
  fields := [("pools", toString pool.pools.size), ("live", toString pool.live)]

/-- Drops all items and cells and begins the next epoch. -/
def reset (pool : ItemPool α) : Step (ItemPool α) Unit :=
  .done ()
    { pool with pools := #[], freeHead := none, live := 0, epoch := pool.epoch + 1 }
    [pool.resetEvent]

/-- The figures of the pool. -/
def usage [layout : ItemLayout α] (pool : ItemPool α) : ItemUsage where
  poolCount := pool.pools.size
  itemsPerPool := pool.itemsPerPool
  live := pool.live
  free := pool.freeCount
  cellBytes := layout.cellBytes

/-- The totals of the pool as a record. -/
def recordText (pool : ItemPool α) : String :=
  Text.record "FixedItemPool" [("pools", toString pool.pools.size),
    ("items_per_pool", toString pool.itemsPerPool), ("live", toString pool.live),
    ("epoch", toString pool.epoch)]

/-- A cell that is set holds its new contents. -/
theorem cell?_setCell_self (pool : ItemPool α) (index : Nat) (old contents : Cell α)
    (present : pool.cell? index = some old) :
    { pool with pools := pool.setCell index contents }.cell? index = some contents := by
  unfold cell? at present ⊢
  obtain ⟨cells, row, column⟩ := Option.bind_eq_some_iff.mp present
  obtain ⟨inside, _⟩ := Array.getElem?_eq_some_iff.mp column
  rw [setCell, Array.getElem?_modify, if_pos rfl, row, Option.map_some, Option.bind_some,
    Array.getElem?_setIfInBounds_self_of_lt inside]

/-- Setting one cell leaves every other cell. -/
theorem cell?_setCell_other (pool : ItemPool α) (index other : Nat) (contents : Cell α)
    (different : index ≠ other) :
    { pool with pools := pool.setCell index contents }.cell? other = pool.cell? other := by
  unfold cell?
  rw [setCell, Array.getElem?_modify]
  by_cases row : index / pool.itemsPerPool = other / pool.itemsPerPool
  · rw [if_pos row]
    have column : index % pool.itemsPerPool ≠ other % pool.itemsPerPool := by
      intro same
      apply different
      rw [← Nat.div_add_mod index pool.itemsPerPool, row, same, Nat.div_add_mod]
    cases pool.pools[other / pool.itemsPerPool]? with
    | none => rfl
    | some cells =>
      rw [Option.map_some, Option.bind_some, Option.bind_some,
        Array.getElem?_setIfInBounds_ne column]
  · rw [if_neg row]

end ItemPool

end Allotment

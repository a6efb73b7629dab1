/-
What the cells of an item pool hold. Read from outside, they hold a map from cell numbers
to items, and the free ones are a list: the cells on the thread that begins at the first
free cell, each once. Storing an item takes the first cell of the list, taking an item out
puts its cell in front, and one more pool appends a row of new cells to an empty list.
-/

import Allotment.Pool.ItemPool
import Allotment.Proofs.Threading
import Mathlib.Data.Nat.Basic

namespace Allotment

namespace ItemPool

variable {α : Type}

/-! ### Rows of cells -/

/-- Every pool has the number of cells that it is meant to have, and that is not zero. -/
structure Regular (pools : Array (Array (Cell α))) (itemsPerPool : Nat) : Prop where
  positive : 0 < itemsPerPool
  rows : ∀ cells ∈ pools, cells.size = itemsPerPool

section Row

variable {pool : ItemPool α} (regular : Regular pool.pools pool.itemsPerPool)

include regular

/-- What has contents is one of the cells that are counted. -/
theorem Regular.lt_capacity (cell : Nat) (contents : Cell α)
    (present : pool.cell? cell = some contents) : cell < pool.capacity := by
  obtain ⟨cells, row, _⟩ := Option.bind_eq_some_iff.mp present
  obtain ⟨inside, _⟩ := Array.getElem?_eq_some_iff.mp row
  exact (Nat.div_lt_iff_lt_mul regular.positive).mp inside

theorem Regular.setCell (cell : Nat) (contents : Cell α) :
    Regular (pool.setCell cell contents) pool.itemsPerPool where
  positive := regular.positive
  rows cells member := by
    obtain ⟨row, found⟩ := Array.getElem?_of_mem member
    rw [ItemPool.setCell, Array.getElem?_modify] at found
    split at found
    · obtain ⟨older, olderFound, rfl⟩ := Option.map_eq_some_iff.mp found
      exact Array.size_setIfInBounds.trans (regular.rows older (Array.mem_of_getElem? olderFound))
    · exact regular.rows cells (Array.mem_of_getElem? found)

end Row

theorem capacity_setCell (pool : ItemPool α) (cell : Nat) (contents : Cell α) :
    { pool with pools := pool.setCell cell contents }.capacity = pool.capacity :=
  congrArg (· * pool.itemsPerPool) Array.size_modify

/-! ### One more pool -/

/-- The pool after it grew. -/
def grown (pool : ItemPool α) : ItemPool α :=
  { pool with
    pools := pool.pools.push (freshCells pool.capacity pool.itemsPerPool)
    freeHead := some pool.capacity }

theorem capacity_grown (pool : ItemPool α) :
    pool.grown.capacity = pool.capacity + pool.itemsPerPool := by
  rw [capacity, grown, Array.size_push, Nat.succ_mul]
  rfl

section Grow

variable {pool : ItemPool α} (regular : Regular pool.pools pool.itemsPerPool)

include regular

theorem Regular.grown : Regular pool.grown.pools pool.itemsPerPool where
  positive := regular.positive
  rows cells member := by
    rcases Array.mem_push.mp member with older | rfl
    · exact regular.rows cells older
    · exact Array.size_ofFn

/-- Growing leaves the cells that were there. -/
theorem Regular.cell?_grown (cell : Nat) (below : cell < pool.capacity) :
    pool.grown.cell? cell = pool.cell? cell := by
  have inside := (Nat.div_lt_iff_lt_mul regular.positive).mpr below
  have row : pool.grown.pools[cell / pool.itemsPerPool]? = pool.pools[cell / pool.itemsPerPool]? :=
    Array.getElem?_push.trans (if_neg (Nat.ne_of_lt inside))
  show (pool.grown.pools[cell / pool.itemsPerPool]?).bind _ = _
  rw [row]
  rfl

/-- The new cells are free, and each one names the one after it. -/
theorem Regular.cell?_grown_fresh (cell : Nat) (behind : pool.capacity ≤ cell)
    (below : cell < pool.capacity + pool.itemsPerPool) :
    pool.grown.cell? cell =
      some (.vacant (if cell + 1 < pool.capacity + pool.itemsPerPool then some (cell + 1)
        else none)) := by
  have last : cell / pool.itemsPerPool = pool.pools.size :=
    Nat.div_eq_of_lt_le behind ((Nat.succ_mul _ _).symm ▸ below)
  have split : pool.capacity + cell % pool.itemsPerPool = cell := by
    rw [capacity, ← last, Nat.mul_comm]
    exact Nat.div_add_mod cell pool.itemsPerPool
  have column := Nat.mod_lt cell regular.positive
  show (pool.grown.pools[cell / pool.itemsPerPool]?).bind _ = _
  rw [last, ItemPool.grown, Array.getElem?_push_size, Option.bind_some, freshCells,
    Array.getElem?_ofFn, dif_pos column]
  have next : cell % pool.itemsPerPool + 1 < pool.itemsPerPool ↔
    cell + 1 < pool.capacity + pool.itemsPerPool := by omega
  simp only [next, split]

end Grow

/-! ### Items and free cells -/

/-- The cell that a free cell names as the next one. -/
def next? (pool : ItemPool α) (cell : Nat) : Option (Option Nat) :=
  match pool.cell? cell with
  | some (.vacant next) => some next
  | _ => none

theorem next?_eq_some_iff (pool : ItemPool α) (cell : Nat) (next : Option Nat) :
    pool.next? cell = some next ↔ pool.cell? cell = some (.vacant next) := by
  unfold next?
  split
  · next other found =>
    rw [found, Option.some_inj, Option.some_inj, Cell.vacant.injEq]
  · next unlike => exact ⟨nofun, fun found => absurd found (unlike next)⟩

/-- The cells hold these items, and the free cells are these, in the order in which they will be
used. -/
structure Holds (pool : ItemPool α) (items : Std.ExtHashMap Nat α) (free : List Nat) : Prop where
  regular : Regular pool.pools pool.itemsPerPool
  stored : ∀ cell item, pool.cell? cell = some (.occupied item) ↔ items[cell]? = some item
  threaded : Threaded pool.next? pool.freeHead free
  distinct : free.Nodup
  vacant : ∀ cell next, pool.cell? cell = some (.vacant next) → cell ∈ free
  live : pool.live = items.size

/-- The pool after an item was stored in its first free cell, which named the next one. -/
def filled (pool : ItemPool α) (cell : Nat) (item : α) (next : Option Nat) : ItemPool α :=
  { pool with
    pools := pool.setCell cell (.occupied item)
    freeHead := next
    live := pool.live + 1 }

/-- The pool after the item of a cell was taken out. -/
def vacated (pool : ItemPool α) (cell : Nat) : ItemPool α :=
  { pool with
    pools := pool.setCell cell (.vacant pool.freeHead)
    freeHead := some cell
    live := pool.live - 1 }

/-- The pool after the item of a cell was replaced. -/
def replaced (pool : ItemPool α) (cell : Nat) (item : α) : ItemPool α :=
  { pool with pools := pool.setCell cell (.occupied item) }

namespace Holds

variable {pool : ItemPool α} {items : Std.ExtHashMap Nat α} {free rest : List Nat}

/-- A cell without an item is not in the map. -/
theorem getElem?_eq_none (holds : pool.Holds items free) (cell : Nat) (next : Option Nat)
    (vacant : pool.cell? cell = some (.vacant next)) : items[cell]? = none := by
  cases found : items[cell]? with
  | none => rfl
  | some item =>
    have occupied := (holds.stored cell item).mpr found
    rw [vacant] at occupied
    cases occupied

/-- A cell with an item is not free. -/
theorem notMem_free (holds : pool.Holds items free) (cell : Nat) (item : α)
    (occupied : pool.cell? cell = some (.occupied item)) : cell ∉ free := by
  intro member
  obtain ⟨next, names⟩ := holds.threaded.free cell member
  rw [next?_eq_some_iff, occupied] at names
  cases names

/-- A free cell is not in the map. -/
theorem notMem_items (holds : pool.Holds items free) (cell : Nat) (unused : cell ∈ free) :
    cell ∉ items := by
  obtain ⟨next, names⟩ := holds.threaded.free cell unused
  have vacant := (pool.next?_eq_some_iff cell next).mp names
  rw [Std.ExtHashMap.mem_iff_isSome_getElem?, holds.getElem?_eq_none cell next vacant]
  exact Bool.false_ne_true

/-- The item under a handle of the current epoch is the one in the map. -/
theorem get?_eq (holds : pool.Holds items free) (handle : ItemHandle) :
    pool.get? handle = if handle.epoch = pool.epoch then items[handle.cell]? else none := by
  unfold get?
  by_cases current : handle.epoch = pool.epoch
  · rw [if_neg (not_not_intro current), if_pos current]
    refine Option.ext fun item => ?_
    rw [← holds.stored]
    split
    · next other found => rw [found, Option.some_inj, Option.some_inj, Cell.occupied.injEq]
    · next unlike => exact ⟨nofun, fun found => absurd found (unlike item)⟩
  · rw [if_pos current, if_neg current]

/-- The items after one cell was set to hold an item. -/
theorem stored_setCell (holds : pool.Holds items free) (cell : Nat) (old : Cell α) (item : α)
    (present : pool.cell? cell = some old) (other : Nat) (found : α) :
    { pool with pools := pool.setCell cell (.occupied item) }.cell? other =
        some (.occupied found) ↔ (items.insert cell item)[other]? = some found := by
  rw [Std.ExtHashMap.getElem?_insert]
  by_cases same : cell = other
  · subst same
    rw [pool.cell?_setCell_self cell old _ present, if_pos (beq_self_eq_true cell),
      Option.some_inj, Option.some_inj, Cell.occupied.injEq]
  · rw [pool.cell?_setCell_other cell other _ same, if_neg (by simpa using same), holds.stored]

/-- The cells that are still free after one cell was set to hold an item are other ones. -/
theorem vacant_setCell (holds : pool.Holds items free) (cell : Nat) (old : Cell α) (item : α)
    (present : pool.cell? cell = some old) (other : Nat) (next : Option Nat)
    (vacant : { pool with pools := pool.setCell cell (.occupied item) }.cell? other =
      some (.vacant next)) : other ∈ free ∧ other ≠ cell := by
  by_cases same : cell = other
  · subst same
    rw [pool.cell?_setCell_self cell _ _ present] at vacant
    cases vacant
  · rw [pool.cell?_setCell_other cell other _ same] at vacant
    exact ⟨holds.vacant other next vacant, Ne.symm same⟩

/-- A cell whose item is known is in the map. -/
theorem mem_of_getElem? (cell : Nat) (item : α) (found : items[cell]? = some item) :
    cell ∈ items := by
  rw [Std.ExtHashMap.mem_iff_isSome_getElem?, found]
  rfl

/-- Cells other than one that is set stay on the thread. -/
theorem threaded_setCell {head : Option Nat} (threaded : Threaded pool.next? head free)
    (cell : Nat) (outside : cell ∉ free) (contents : Cell α) :
    Threaded { pool with pools := pool.setCell cell contents }.next? head free := by
  refine threaded.congr fun other member => ?_
  have different : cell ≠ other := fun same => outside (same ▸ member)
  rw [next?, next?, pool.cell?_setCell_other cell other _ different]

/-- An item is stored in the first free cell. -/
theorem occupy (holds : pool.Holds items (cell :: rest)) (item : α) :
    ∃ next, pool.occupy cell item = .done ⟨cell, pool.epoch⟩ (pool.filled cell item next) [] ∧
      (pool.filled cell item next).Holds (items.insert cell item) rest := by
  obtain ⟨_, next, names, following⟩ := holds.threaded
  obtain ⟨outside, distinct⟩ := List.nodup_cons.mp holds.distinct
  have vacant := (pool.next?_eq_some_iff cell next).mp names
  have fresh : cell ∉ items := by
    rw [Std.ExtHashMap.mem_iff_isSome_getElem?, holds.getElem?_eq_none cell next vacant]
    exact Bool.false_ne_true
  refine ⟨next, by rw [ItemPool.occupy, vacant]; rfl, ?_⟩
  refine ⟨holds.regular.setCell cell _, holds.stored_setCell cell _ item vacant,
    threaded_setCell following cell outside _, distinct, fun other link free => ?_, ?_⟩
  · obtain ⟨member, different⟩ := holds.vacant_setCell cell _ item vacant other link free
    exact (List.mem_cons.mp member).resolve_left different
  · rw [Std.ExtHashMap.size_insert, if_neg fresh, ← holds.live]
    rfl

/-- Where no cell is free, the free cells after growing are the new ones in a row. -/
theorem grown (holds : pool.Holds items []) :
    pool.grown.Holds items
      (List.range' pool.capacity (pool.grown.capacity - pool.capacity)) := by
  rw [capacity_grown, Nat.add_sub_cancel_left]
  have regular := holds.regular
  have within : ∀ cell contents, pool.grown.cell? cell = some contents →
      cell < pool.capacity + pool.itemsPerPool := fun cell contents present =>
    pool.capacity_grown ▸ regular.grown.lt_capacity cell contents present
  refine ⟨regular.grown, fun cell item => ?_, ?_, List.nodup_range', fun cell next free => ?_,
    holds.live⟩
  · rw [← holds.stored]
    by_cases older : cell < pool.capacity
    · rw [regular.cell?_grown cell older]
    · constructor
      · intro present
        rw [regular.cell?_grown_fresh cell (Nat.le_of_not_lt older) (within cell _ present)]
          at present
        cases present
      · intro present
        exact absurd (regular.lt_capacity cell _ present) older
  · have row := Threaded.range' pool.grown.next? pool.capacity pool.itemsPerPool
      fun cell behind below => (next?_eq_some_iff _ _ _).mpr
        (regular.cell?_grown_fresh cell behind below)
    rw [if_pos regular.positive] at row
    exact row
  · rw [List.mem_range'_1]
    refine ⟨Nat.le_of_not_lt fun older => ?_, within cell _ free⟩
    rw [regular.cell?_grown cell older] at free
    exact List.not_mem_nil (holds.vacant cell next free)

/-- A free cell is there without growing. -/
theorem ensure_of_free (holds : pool.Holds items (cell :: rest)) (memory : Memory) :
    pool.ensure memory = .granted cell pool := by
  rw [ensure, holds.threaded.1]

/-- Without a free cell the pool grows, if there is memory. -/
theorem ensure_of_none_free (holds : pool.Holds items []) (memory : Memory) :
    pool.ensure memory =
      if memory.grantsCells pool.itemsPerPool ∧ memory.grantsEntry pool.pools.size then
        .done (.ok pool.capacity) pool.grown [pool.grewEvent]
      else .refused (.outOfMemory pool.itemsPerPool) pool := by
  have none : pool.freeHead = none := holds.threaded
  rw [ensure, none]
  rfl

/-- An item is stored in the first free cell, once there is one. -/
theorem allocate_of_ensure {base : ItemPool α} {memory : Memory} {events : List Event}
    (holds : base.Holds items (cell :: rest))
    (ensured : pool.ensure memory = .done (.ok cell) base events) (item : α) :
    ∃ next, pool.allocate memory item =
        .done (.ok ⟨cell, base.epoch⟩) (base.filled cell item next) events ∧
      (base.filled cell item next).Holds (items.insert cell item) rest := by
  obtain ⟨next, occupied, filled⟩ := holds.occupy item
  refine ⟨next, ?_, filled⟩
  rw [allocate, ensured]
  show ((base.occupy cell item).mapAnswer Except.ok).after events = _
  rw [occupied]
  show Step.done _ _ (events ++ []) = _
  rw [List.append_nil]

/-- The cell of an item that is taken out is the first free one. -/
theorem vacated (holds : pool.Holds items free) (cell : Nat) (item : α)
    (found : items[cell]? = some item) :
    (pool.vacated cell).Holds (items.erase cell) (cell :: free) := by
  have occupied := (holds.stored cell item).mpr found
  have outside := holds.notMem_free cell item occupied
  have emptied := pool.cell?_setCell_self cell _ (.vacant pool.freeHead) occupied
  refine ⟨holds.regular.setCell cell _, fun other held => ?_, ⟨rfl, pool.freeHead,
    (next?_eq_some_iff _ _ _).mpr emptied, threaded_setCell holds.threaded cell outside _⟩,
    List.nodup_cons.mpr ⟨outside, holds.distinct⟩, fun other next vacant => ?_, ?_⟩
  · show { pool with pools := pool.setCell cell _ }.cell? other = _ ↔ _
    rw [Std.ExtHashMap.getElem?_erase]
    by_cases same : cell = other
    · subst same
      rw [emptied, if_pos (beq_self_eq_true cell)]
      exact ⟨nofun, nofun⟩
    · rw [pool.cell?_setCell_other cell other _ same, if_neg (by simpa using same), holds.stored]
  · by_cases same : cell = other
    · exact List.mem_cons.mpr (Or.inl same.symm)
    · refine List.mem_cons_of_mem _ (holds.vacant other next ?_)
      rw [← pool.cell?_setCell_other cell other _ same]
      exact vacant
  · rw [Std.ExtHashMap.size_erase, if_pos (mem_of_getElem? cell item found), ← holds.live]
    rfl

/-- An item that is in the map is counted, so it can be taken out. -/
theorem deallocate_of_found (holds : pool.Holds items free) (handle : ItemHandle) (item : α)
    (current : handle.epoch = pool.epoch) (found : items[handle.cell]? = some item) :
    pool.deallocate handle = .done (some item) (pool.vacated handle.cell) [] := by
  have some : pool.live ≠ 0 := by
    rw [holds.live]
    intro none
    rw [Std.ExtHashMap.eq_empty_iff_size_eq_zero.mpr none, Std.ExtHashMap.getElem?_empty] at found
    cases found
  rw [deallocate, holds.get?_eq, if_pos current, found]
  exact if_neg some

/-- Replacing an item changes the map at its cell alone. -/
theorem replaced (holds : pool.Holds items free) (cell : Nat) (old item : α)
    (found : items[cell]? = some old) :
    (pool.replaced cell item).Holds (items.insert cell item) free := by
  have occupied := (holds.stored cell old).mpr found
  have outside := holds.notMem_free cell old occupied
  refine ⟨holds.regular.setCell cell _, holds.stored_setCell cell _ item occupied,
    threaded_setCell holds.threaded cell outside _, holds.distinct,
    fun other next vacant => ?_, ?_⟩
  · exact (holds.vacant_setCell cell _ item occupied other next vacant).1
  · rw [Std.ExtHashMap.size_insert, if_pos (mem_of_getElem? cell old found)]
    exact holds.live

/-- A pool without cells holds nothing. -/
theorem of_no_pools (positive : 0 < pool.itemsPerPool) (noPools : pool.pools = #[])
    (noHead : pool.freeHead = none) (noItems : pool.live = 0) :
    pool.Holds (∅ : Std.ExtHashMap Nat α) [] := by
  have noCells : ∀ cell, pool.cell? cell = none := fun cell => by rw [cell?, noPools]; rfl
  refine ⟨⟨positive, fun cells member => ?_⟩, fun cell item => ?_, noHead, List.nodup_nil,
    fun cell next vacant => ?_, ?_⟩
  · rw [noPools] at member
    exact absurd member (Array.not_mem_empty cells)
  · rw [noCells, Std.ExtHashMap.getElem?_empty]
    exact ⟨nofun, nofun⟩
  · rw [noCells] at vacant
    cases vacant
  · rw [noItems, Std.ExtHashMap.size_empty]

end Holds

end ItemPool

end Allotment
